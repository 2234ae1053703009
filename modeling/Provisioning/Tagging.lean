import Provisioning.Chain
import Provisioning.TagSet

/-!
# Bringing tags up to date

A resource gets its tags in its create request, or by two calls afterwards: one that removes tags
and one that adds them. Where the caller may not tag, a resource is created with the system tags
alone, and a separate step adds the others.
-/

set_option autoImplicit false

namespace Provisioning

open Handler

/-- The codes by which the service denies access. -/
def accessDeniedCodes : List String := ["AccessDenied", "AccessDeniedException", "NotAuthorized"]

/-- Adds tags to a resource; nothing is called for no tags. -/
def addTags (arn : Value) (tags : TagSet) : Handler Unit := do
  unless tags.isEmpty do
    let _ ← call "add_tags_to_resource"
      [("ResourceName", arn), ("Tags", .list tags.toSdkTags)]

/-- Removes tags from a resource by their keys; nothing is called for no tags. -/
def removeTags (arn : Value) (tags : TagSet) : Handler Unit := do
  unless tags.isEmpty do
    let _ ← call "remove_tags_from_resource"
      [("ResourceName", arn), ("TagKeys", .list tags.flat.keys)]

/-- Removes tags from the resource that the field `arnField` of the callback context names, and adds
others to it. -/
def changeTags (toRemove toAdd : TagSet) (rules : Option RuleSet) (arnField : String) : Step :=
  fun progress => do
    let arn ← field progress.context arnField
    let calls : Handler Unit := do
      removeTags arn toRemove
      addTags arn toAdd
    match ← attempt calls with
    | .error fault => lift (Event.ofFault rules progress fault)
    | .ok () => return progress

/-- Brings the tags of a resource from the previous to the desired set. Nothing is called if there
is nothing to do. The name of the resource is in the field `arnField` of the callback context; if
it is not, `fetchArn` has to put it there. -/
def updateTags (previous desired : TagSet) (rules : Option RuleSet) (arnField : String)
    (fetchArn : Step) : Step := fun progress => do
  let (toRemove, toAdd) := TagSet.diff previous desired
  let change := changeTags toRemove toAdd rules arnField
  if toRemove.isEmpty && toAdd.isEmpty then return progress
  else if (← field progress.context arnField).isNull then chain (← fetchArn progress) [change]
  else change progress

/-- Rules under which missing permissions to tag are ignored as long as the system tags stay what
they are; system tags have to be applied. -/
def bestEffortRules (rules : Option RuleSet) (previous desired : TagSet) : Option RuleSet :=
  if previous.system.agrees desired.system then
    some ((rules.elim RuleSet.empty RuleSet.extend).withCodes .ignore accessDeniedCodes)
  else rules

/-- Creates a resource with all tags, and if access is denied and the user asked for tags, once
more with the system tags alone. -/
def createWithTaggingFallback (create : TagSet → Step) (tags : TagSet) : Step := fun progress => do
  let result ← create tags progress
  if result.isFailed && result.code = some .accessDenied && !tags.withoutSystem.isEmpty then
    create tags.onlySystem progress
  else return result

end Provisioning
