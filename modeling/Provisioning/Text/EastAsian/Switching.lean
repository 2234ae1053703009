import Provisioning.Text.EastAsian.Chinese
import Provisioning.Text.EastAsian.Japanese
import Provisioning.Text.EastAsian.Korean

/-!
# Encodings that switch between sets

These encodings write the codes of several sets with the same bytes and put other bytes between, by
which they switch from one set to another. A text begins and ends in ASCII.
-/

set_option autoImplicit false

namespace Provisioning.Text.EastAsian

/-- A set of characters to which an encoding switches. -/
inductive CharacterSet
  | ascii
  /-- ASCII with two tildes for one. -/
  | asciiDoubledTilde
  | jisRoman
  | jisKatakana
  | jisX0208
  | jisX0212
  | jisX0213First (edition : Edition)
  | jisX0213Second (edition : Edition)
  | ksX1001
  | gb2312
  deriving DecidableEq, Repr

/-- The code of a character in a set. -/
def CharacterSet.code? (s : CharacterSet) (c : Char) : Option (List UInt8) :=
  match s with
  | .ascii => ascii? c
  | .asciiDoubledTilde => if c = '~' then some [0x7E, 0x7E] else ascii? c
  | .jisRoman => jisRoman? c
  | .jisKatakana => (katakana? c).map fun n => [UInt8.ofNat (0x21 + n)]
  | .jisX0208 => (EastAsian.jisX0208.place? c).map Place.lower
  | .jisX0212 => (EastAsian.jisX0212.place? c).map Place.lower
  | .jisX0213First e => (e.first? c).map Place.lower
  | .jisX0213Second e => (e.second? c).map Place.lower
  | .ksX1001 => (EastAsian.ksX1001.place? c).map Place.lower
  | .gb2312 => (EastAsian.gb2312.place? c).map Place.lower

/-- The code of a base with a modifier in a set. -/
def CharacterSet.modifiedCode? (s : CharacterSet) (base modifier : Char) : Option (List UInt8) :=
  match s with
  | .jisX0213First _ => (modified? base modifier).map Place.lower
  | _ => none

/-- Bytes in a set, and the bytes that switch to the set; or bytes that are written as they are in
whatever set. -/
inductive Switched
  | code (set : CharacterSet) (switch bytes : List UInt8)
  | raw (bytes : List UInt8)
  deriving DecidableEq, Repr

/-- An encoding that switches. The bytes beside a set are those that switch to it. -/
structure Switching where
  /-- The set in which a text begins and ends. -/
  ground : CharacterSet × List UInt8
  /-- The other sets, in the order in which they are asked for a character. -/
  others : List (CharacterSet × List UInt8)
  /-- What is written once, before the first code of another set. -/
  announcement : List UInt8
  deriving DecidableEq, Repr

/-- The code of a character in the first set that holds it. -/
def Switching.code? (w : Switching) (c : Char) : Option Switched :=
  (w.ground :: w.others).findSome? fun (set, switch) => (set.code? c).map (.code set switch)

/-- The code of a base with a modifier in the first set that holds it. -/
def Switching.modifiedCode? (w : Switching) (base modifier : Char) : Option Switched :=
  w.others.findSome? fun (set, switch) =>
    (set.modifiedCode? base modifier).map (.code set switch)

/-- The bytes of codes, where `current` is the set to which the encoding has switched. -/
def Switching.write (w : Switching) (current : CharacterSet) (announced : Bool) :
    List Switched → List UInt8
  | [] => if current = w.ground.1 then [] else w.ground.2
  | .raw bytes :: rest => bytes ++ w.write current announced rest
  | .code set switch bytes :: rest =>
    let other := set != w.ground.1
    (if other && !announced then w.announcement else []) ++
      (if set = current then [] else switch) ++ bytes ++ w.write set (announced || other) rest

/-- The bytes of the codes of a text. -/
def Switching.bytes (w : Switching) (codes : List Switched) : List UInt8 :=
  w.write w.ground.1 false codes

/-- The bytes of an escape sequence. -/
def escape (rest : String) : List UInt8 := 0x1B :: rest.toList.map fun c => UInt8.ofNat c.toNat

/-- ISO 2022 with some sets beside ASCII. -/
def iso2022 (others : List (CharacterSet × String)) : Switching :=
  ⟨(.ascii, escape "(B"), others.map fun (set, rest) => (set, escape rest), []⟩

/-- ISO 2022 for Japanese. -/
def iso2022Jp : Switching := iso2022 [(.jisX0208, "$B"), (.jisRoman, "(J")]

/-- ISO 2022 for Japanese with supplementary characters. -/
def iso2022Jp1 : Switching := iso2022 [(.jisX0208, "$B"), (.jisX0212, "$(D"), (.jisRoman, "(J")]

/-- ISO 2022 for Japanese with supplementary characters, Korean and Chinese. -/
def iso2022Jp2 : Switching :=
  iso2022 [(.jisX0208, "$B"), (.jisX0212, "$(D"), (.ksX1001, "$(C"), (.gb2312, "$(A"),
    (.jisRoman, "(J")]

/-- ISO 2022 for Japanese with supplementary characters and katakana of half width. -/
def iso2022JpExt : Switching :=
  iso2022 [(.jisX0208, "$B"), (.jisX0212, "$(D"), (.jisRoman, "(J"), (.jisKatakana, "(I")]

/-- ISO 2022 for Japanese with an edition of JIS X 0213. -/
def iso2022JpX0213 (e : Edition) : Switching :=
  let first := match e with
    | .of2000 => "$(O"
    | .of2004 => "$(Q"
  iso2022 [(.jisX0208, "$B"), (.jisX0213First e, first), (.jisX0213Second e, "$(P")]

/-- ISO 2022 for Korean: one set, which is announced by an escape sequence and then switched to and
from by single bytes. -/
def iso2022Kr : Switching := ⟨(.ascii, [0x0F]), [(.ksX1001, [0x0E])], escape "$)C"⟩

/-- HZ, which switches by pairs of a tilde and a brace. -/
def hz : Switching := ⟨(.asciiDoubledTilde, [0x7E, 0x7D]), [(.gb2312, [0x7E, 0x7B])], []⟩

end Provisioning.Text.EastAsian
