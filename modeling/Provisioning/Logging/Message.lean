import Provisioning.Logging.Place

/-!
# Messages of the log

A message has places for its arguments, which begin with a percent sign and end with the letter of a
form, as in `%s` or `%-5d`; two percent signs stand for one. A single mapping as the only argument
gives its values by name, to places such as `%(name)s`, and itself to a place without a name.
-/

set_option autoImplicit false

namespace Provisioning.Logging

/-! ## Reading a message -/

/-- A part of a message. -/
inductive Segment
  | char (c : Char)
  /-- A place, the letter of its form, and where in the message the letter stands. -/
  | place (p : Place) (form : Char) (index : Nat)
  /-- A place that the message ends in. -/
  | unfinished (p : Place)
  /-- The name of a value that the message ends in. -/
  | unfinishedKey

/-- What part of a place the next character can belong to. -/
inductive Stage
  | start
  /-- Inside a name, in which parentheses are balanced; it is collected in reverse. -/
  | key (depth : Nat) (read : List Char)
  | flags
  | width
  | afterWidth
  | point
  | precision
  | afterPrecision
  | form
  deriving DecidableEq, Repr

/-- Where in a message a character stands. -/
inductive Position
  | outside
  | inside (stage : Stage) (p : Place)

/-- The place with a flag; `none` for a character that is no flag. -/
def Place.flagged? (p : Place) (c : Char) : Option Place :=
  match c with
  | '-' => some { p with left := true }
  | '+' => some { p with plus := true }
  | ' ' => some { p with blank := true }
  | '#' => some { p with marked := true }
  | '0' => some { p with zeros := true }
  | _ => none

/-- A size with another digit. -/
def Size.withDigit (s : Option Size) (c : Char) : Option Size :=
  match s with
  | some (.given n) => some (.given (10 * n + (c.toNat - 48)))
  | _ => some (.given (c.toNat - 48))

/-- Where a place is after another character; `none` if the character is the letter of its form. -/
def advance? (p : Place) (c : Char) : Stage → Option (Stage × Place)
  | .start =>
    if c = '(' then some (.key 1 [], p)
    else advanceFlags p c
  | .key depth read =>
    if c = ')' then
      if depth ≤ 1 then some (.flags, { p with key := some (String.ofList read.reverse) })
      else some (.key (depth - 1) (c :: read), p)
    else some (.key (if c = '(' then depth + 1 else depth) (c :: read), p)
  | .flags => advanceFlags p c
  | .width =>
    if c.isDigit then some (.width, { p with width := Size.withDigit p.width c })
    else advancePoint p c
  | .afterWidth => advancePoint p c
  | .point =>
    if c = '*' then some (.afterPrecision, { p with precision := some .argument })
    else if c.isDigit then some (.precision, { p with precision := Size.withDigit none c })
    else advanceModifier p c
  | .precision =>
    if c.isDigit then some (.precision, { p with precision := Size.withDigit p.precision c })
    else advanceModifier p c
  | .afterPrecision => advanceModifier p c
  | .form => none
where
  /-- One of the letters that may stand before that of the form and mean nothing. -/
  advanceModifier (p : Place) (c : Char) : Option (Stage × Place) :=
    if c = 'h' || c = 'l' || c = 'L' then some (.form, p) else none
  /-- The point before a precision, or what may come after. -/
  advancePoint (p : Place) (c : Char) : Option (Stage × Place) :=
    if c = '.' then some (.point, { p with precision := some (.given 0) })
    else advanceModifier p c
  /-- A flag, a width, or what may come after. -/
  advanceFlags (p : Place) (c : Char) : Option (Stage × Place) :=
    match p.flagged? c with
    | some p => some (.flags, p)
    | none =>
      if c = '*' then some (.afterWidth, { p with width := some .argument })
      else if c.isDigit then some (.width, { p with width := Size.withDigit none c })
      else advancePoint p c

/-- The parts of the rest of a message, which begins at `index`. -/
def segments (index : Nat) : Position → List Char → List Segment
  | .outside, [] => []
  | .inside (.key _ _) _, [] => [.unfinishedKey]
  | .inside _ p, [] => [.unfinished p]
  | .outside, c :: rest =>
    if c = '%' then segments (index + 1) (.inside .start {}) rest
    else .char c :: segments (index + 1) .outside rest
  | .inside .start p, c :: rest =>
    if c = '%' then .char c :: segments (index + 1) .outside rest
    else
      match advance? p c .start with
      | some (stage, p) => segments (index + 1) (.inside stage p) rest
      | none => .place p c index :: segments (index + 1) .outside rest
  | .inside stage p, c :: rest =>
    match advance? p c stage with
    | some (stage, p) => segments (index + 1) (.inside stage p) rest
    | none => .place p c index :: segments (index + 1) .outside rest

/-! ## Arguments -/

/-- The arguments of a message: what is left for its places, and the values that they can name. -/
structure Arguments where
  left : List Value
  named : Option (Entries String Value) := none

namespace Arguments

/-- The arguments of a list of them. -/
def ofList : List Value → Arguments
  | [.map (e :: es)] => { left := [.map (e :: es)], named := some (e :: es) }
  | args => { left := args }

/-- The value for the next place, and the arguments after it. -/
def next (args : Arguments) : Except Fault (Value × Arguments) :=
  match args.left with
  | v :: rest => .ok (v, { args with left := rest })
  | [] => .error (.wrongType "not enough arguments for format string")

/-- The arguments for a place that names its value. -/
def select (args : Arguments) (name : String) : Except Fault Arguments :=
  match args.named with
  | none => .error (.wrongType "format requires a mapping")
  | some entries => do return { args with left := [← (Value.map entries).require name] }

/-- Fails if arguments are left that no place has taken. -/
def finish (args : Arguments) : Except Fault Unit :=
  if args.left.isEmpty || args.named.isSome then .ok ()
  else .error (.wrongType "not all arguments converted during string formatting")

/-- A size, which may be the next argument, and the arguments after it. A number in the message is
at most `limit`, and an argument is so on both sides of zero. -/
def size (args : Arguments) (name kind : String) (limit : Nat) :
    Option Size → Except Fault (Option Int × Arguments)
  | none => .ok (none, args)
  | some (.given n) =>
    if n ≤ limit then .ok (some n, args) else .error (.badValue (name ++ " too big"))
  | some .argument => do
    let (v, args) ← args.next
    match v with
    | .number (.int n) =>
      if n < -(limit : Int) - 1 ∨ limit < n then
        throw (.ofClass "OverflowError" ("Python int too large to convert to C " ++ kind))
      return (some n, args)
    | .bool b => return (some (if b then 1 else 0), args)
    | _ => throw (.wrongType "* wants int")

/-- The sizes of a place, and the arguments after those that give them. A negative width fills up on
the right, and a negative precision counts as zero. -/
def layout (args : Arguments) (p : Place) : Except Fault (Layout × Arguments) := do
  let args ← match p.key with
    | some name => args.select name
    | none => pure args
  let (width, args) ← args.size "width" "ssize_t" 0x7fffffffffffffff p.width
  let (precision, args) ← args.size "precision" "int" 0x7fffffff p.precision
  let width := width.getD 0
  return ({ left := p.left || width < 0, plus := p.plus, blank := p.blank, marked := p.marked
            zeros := p.zeros, width := width.natAbs, precision := precision.map Int.toNat }, args)

end Arguments

/-! ## Writing a message -/

/-- The fault of a letter that stands for no form. -/
def unknownForm (form : Char) (index : Nat) : Fault :=
  let code := Text.codeOf form
  let shown := if 31 ≤ code ∧ code ≤ 126 then form else '?'
  .badValue ("unsupported format character '" ++ String.ofList [shown] ++ "' (0x" ++
    String.ofList (Nat.toDigits 16 code) ++ ") at index " ++ toString index)

/-- Writes the arguments into the parts of a message. -/
def write (args : Arguments) : List Segment → Except Fault (List Char)
  | [] => args.finish.map fun _ => []
  | .char c :: rest => return c :: (← write args rest)
  | .unfinishedKey :: _ =>
    .error (if args.named.isNone then .wrongType "format requires a mapping"
      else .badValue "incomplete format key")
  | .unfinished p :: _ => do
    let _ ← args.layout p
    throw (.badValue "incomplete format")
  | .place p form index :: rest => do
    let (layout, args) ← args.layout p
    let (v, args) ← args.next
    match layout.write? form v with
    | some shown => return (← shown) ++ (← write args rest)
    | none => throw (unknownForm form index)

/-- A message with its arguments; without any it is taken as it is. -/
def formatMessage (message : String) (args : List Value) : Except Fault String :=
  if args.isEmpty then .ok message
  else
    return String.ofList (← write (Arguments.ofList args) (segments 0 .outside message.toList))

end Provisioning.Logging
