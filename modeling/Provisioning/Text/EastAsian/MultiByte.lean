import Provisioning.Text.EastAsian.Chinese
import Provisioning.Text.EastAsian.Japanese
import Provisioning.Text.EastAsian.Korean

/-!
# Encodings with several bytes for a character

In these encodings the bytes of a character do not depend on what is before it; some of them have
bytes of their own for a base with a modifier.
-/

set_option autoImplicit false

namespace Provisioning.Text.EastAsian

/-- The encodings of East Asian scripts that do not switch between sets. -/
inductive MultiByte
  | shiftJis
  | cp932
  | shiftJisX0213 (edition : Edition)
  | eucJp
  | eucJisX0213 (edition : Edition)
  | gb2312
  | gbk
  | gb18030
  | big5
  | cp950
  | big5Hkscs
  | eucKr
  | cp949
  | johab
  deriving DecidableEq, Repr

/-- The bytes of a character. -/
def MultiByte.code? : MultiByte → Char → Option (List UInt8)
  | .shiftJis, c => shiftJis? c
  | .cp932, c => cp932? c
  | .shiftJisX0213 e, c => shiftJisX0213? e c
  | .eucJp, c => eucJp? c
  | .eucJisX0213 e, c => eucJisX0213? e c
  | .gb2312, c => gb2312? c
  | .gbk, c => gbk? c
  | .gb18030, c => some (EastAsian.gb18030 c)
  | .big5, c => big5? c
  | .cp950, c => cp950? c
  | .big5Hkscs, c => big5Hkscs? c
  | .eucKr, c => eucKr? c
  | .cp949, c => cp949? c
  | .johab, c => johab? c

/-- The bytes of a base with a modifier. -/
def MultiByte.modifiedCode? : MultiByte → Char → Char → Option (List UInt8)
  | .shiftJisX0213 _, base, modifier => (modified? base modifier).map Place.shifted
  | .eucJisX0213 _, base, modifier => (modified? base modifier).map Place.upper
  | .big5Hkscs, base, modifier => hkscsModified? base modifier
  | _, _, _ => none

end Provisioning.Text.EastAsian
