/-!
Kinds of access that a watch reports, as bits, and their letters `r`, `w`, `x` and `a`.
-/

namespace LinuxAudit.Access

def execute : UInt32 := 1

def write : UInt32 := 2

def read : UInt32 := 4

/-- A change of attributes. -/
def change : UInt32 := 8

/-- Every kind of access. -/
def all : UInt32 := execute ||| write ||| read ||| change

def ofLetter? : Char → Option UInt32
  | 'r' => some read
  | 'w' => some write
  | 'x' => some execute
  | 'a' => some change
  | _ => none

/-- Joins the bits of letters to `bits`. -/
def addLetters : UInt32 → List Char → Option UInt32
  | bits, [] => some bits
  | bits, c :: rest => (ofLetter? c).bind fun bit => addLetters (bits ||| bit) rest

/-- Reads one letter or more, in any order and with repetitions. -/
def parse? (text : String) : Option UInt32 :=
  match text.toList with
  | [] => none
  | letters => addLetters 0 letters

end LinuxAudit.Access
