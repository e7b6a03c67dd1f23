import SessionGateway.Wire.Reader

/-!
# Terminal modes

The encoded terminal modes of a pseudo-terminal request: records of an opcode and a word, up to
the end of the string or to an opcode that carries no word. Records with an opcode outside the
table are passed over.
-/

namespace SessionGateway.Terminal

open Wire

/-- The opcodes with a meaning, and the names of the modes they set. -/
def modeNames : List (UInt8 × String) :=
  [(1, "VINTR"), (2, "VQUIT"), (3, "VERASE"), (4, "VKILL"), (5, "VEOF"), (6, "VEOL"),
   (7, "VEOL2"), (8, "VSTART"), (9, "VSTOP"), (10, "VSUSP"), (11, "VDSUSP"), (12, "VREPRINT"),
   (13, "VWERASE"), (14, "VLNEXT"), (15, "VFLUSH"), (16, "VSWTCH"), (17, "VSTATUS"),
   (18, "VDISCARD"), (30, "IGNPAR"), (31, "PARMRK"), (32, "INPCK"), (33, "ISTRIP"), (34, "INLCR"),
   (35, "IGNCR"), (36, "ICRNL"), (37, "IUCLC"), (38, "IXON"), (39, "IXANY"), (40, "IXOFF"),
   (41, "IMAXBEL"), (42, "IUTF8"), (50, "ISIG"), (51, "ICANON"), (52, "XCASE"), (53, "ECHO"),
   (54, "ECHOE"), (55, "ECHOK"), (56, "ECHONL"), (57, "NOFLSH"), (58, "TOSTOP"), (59, "IEXTEN"),
   (60, "ECHOCTL"), (61, "ECHOKE"), (62, "PENDIN"), (70, "OPOST"), (71, "OLCUC"), (72, "ONLCR"),
   (73, "OCRNL"), (74, "ONOCR"), (75, "ONLRET"), (90, "CS7"), (91, "CS8"), (92, "PARENB"),
   (93, "PARODD"), (128, "TTY_OP_ISPEED"), (129, "TTY_OP_OSPEED")]

def modeName? (opcode : UInt8) : Option String :=
  modeNames.lookup opcode

structure Mode where
  opcode : UInt8
  value : UInt32
  deriving DecidableEq, Repr

namespace Mode

def name (m : Mode) : String :=
  (modeName? m.opcode).getD ""

/-- Whether an opcode is followed by a word: zero ends the modes, and opcodes from 160 on are
undefined and end them as well. -/
def carriesValue (opcode : UInt8) : Bool :=
  0 < opcode && opcode ≤ 159

/-- Reads encoded modes. Each record is five bytes long, and a record that is cut short in its
value is an error. -/
def decode : Bytes → Except Wire.Error (List Mode)
  | [] => .ok []
  | opcode :: rest =>
    if carriesValue opcode then
      match rest with
      | a :: b :: c :: d :: rest' => do
          let modes ← decode rest'
          if (modeName? opcode).isSome then
            return ⟨opcode, word a b c d⟩ :: modes
          else
            return modes
      | short => .error (.truncated "mode value" 4 short.length)
    else
      .ok []

end Mode

end SessionGateway.Terminal
