import SymbolGraph.Text.Hex

/-! # Reading UTF-8

    `Utf8.step` looks at the front of a list of bytes and finds a character or a
    fault. A fault covers the bytes that started a character before it turned out
    to be wrong: a byte that can start none, a byte that does not continue the
    character begun, or the end of the bytes in the middle of a character.

    * `Utf8.decode` stops at the first fault and says where it is.
    * `Utf8.decodeLossy` leaves out the bytes of every fault.
-/

namespace SymbolGraph.Text.Utf8

/-- What is wrong with some bytes. -/
inductive FaultKind where
  | invalidStart
  | invalidContinuation
  | unexpectedEnd
deriving DecidableEq, Inhabited, Repr

/-- A fault in a sequence of bytes: its kind, the position of its first byte, how
    many bytes it covers, and the first of them. -/
structure Fault where
  kind : FaultKind
  position : Nat
  width : Nat
  byte : UInt8
deriving DecidableEq, Inhabited, Repr

/-- What stands at the front of a list of bytes. -/
inductive Step where
  | char (c : Char) (width : Nat)
  | fault (kind : FaultKind) (width : Nat)
deriving DecidableEq, Inhabited, Repr

/-- Whether a byte continues a character. -/
def isContinuation (b : UInt8) : Bool :=
  0x80 ≤ b && b ≤ 0xbf

/-- The second bytes allowed after a first byte, so that no character has two
    spellings, none is a surrogate and none is beyond the last code point. -/
def secondOk (first second : UInt8) : Bool :=
  isContinuation second &&
    !(first == 0xe0 && second < 0xa0) && !(first == 0xed && second ≥ 0xa0) &&
    !(first == 0xf0 && second < 0x90) && !(first == 0xf4 && second ≥ 0x90)

/-- The low six bits of a continuation byte. -/
def low6 (b : UInt8) : Nat :=
  b.toNat % 64

/-- The character or fault at the front of the bytes `b :: rest`. -/
def step (b : UInt8) (rest : List UInt8) : Step :=
  if b < 0x80 then .char (Char.ofNat b.toNat) 1
  else if b < 0xc2 then .fault .invalidStart 1
  else if b < 0xe0 then
    match rest with
    | [] => .fault .unexpectedEnd 1
    | b₂ :: _ =>
      if secondOk b b₂ then .char (Char.ofNat (b.toNat % 32 * 64 + low6 b₂)) 2
      else .fault .invalidContinuation 1
  else if b < 0xf0 then
    match rest with
    | [] => .fault .unexpectedEnd 1
    | b₂ :: rest =>
      if !secondOk b b₂ then .fault .invalidContinuation 1
      else match rest with
        | [] => .fault .unexpectedEnd 2
        | b₃ :: _ =>
          if !isContinuation b₃ then .fault .invalidContinuation 2
          else .char (Char.ofNat (b.toNat % 16 * 4096 + low6 b₂ * 64 + low6 b₃)) 3
  else if b < 0xf5 then
    match rest with
    | [] => .fault .unexpectedEnd 1
    | b₂ :: rest =>
      if !secondOk b b₂ then .fault .invalidContinuation 1
      else match rest with
        | [] => .fault .unexpectedEnd 2
        | b₃ :: rest =>
          if !isContinuation b₃ then .fault .invalidContinuation 2
          else match rest with
            | [] => .fault .unexpectedEnd 3
            | b₄ :: _ =>
              if !isContinuation b₄ then .fault .invalidContinuation 3
              else .char
                (Char.ofNat (b.toNat % 8 * 262144 + low6 b₂ * 4096 + low6 b₃ * 64 + low6 b₄)) 4
  else .fault .invalidStart 1

/-- The number of bytes that a step takes. -/
def Step.width : Step → Nat
  | .char _ w => w
  | .fault _ w => w

/-- Read bytes up to the first fault. `position` is that of the first byte. The
    characters read so far are in `read`, last first. -/
def decodeFrom (position : Nat) (read : List Char) : List UInt8 → Except Fault String
  | [] => .ok (String.ofList read.reverse)
  | b :: rest =>
    match step b rest with
    | .char c w => decodeFrom (position + w) (c :: read) (rest.drop (w - 1))
    | .fault kind w => .error ⟨kind, position, w, b⟩
termination_by bytes => bytes.length
decreasing_by simp only [List.length_cons, List.length_drop]; omega

/-- The text that the bytes spell, or their first fault. -/
def decode (bytes : List UInt8) : Except Fault String :=
  decodeFrom 0 [] bytes

/-- The characters that the bytes spell, without the bytes of faults. -/
def lossyFrom (read : List Char) : List UInt8 → List Char
  | [] => read.reverse
  | b :: rest =>
    match step b rest with
    | .char c w => lossyFrom (c :: read) (rest.drop (w - 1))
    | .fault _ w => lossyFrom read (rest.drop (w - 1))
termination_by bytes => bytes.length
decreasing_by all_goals (simp only [List.length_cons, List.length_drop]; omega)

/-- The text that the bytes spell, without the bytes of faults. -/
def decodeLossy (bytes : List UInt8) : String :=
  String.ofList (lossyFrom [] bytes)

/-- The bytes of a text. -/
def encode (s : String) : List UInt8 :=
  s.toUTF8.toList

/-- What a fault is called in messages. -/
def FaultKind.message : FaultKind → String
  | .invalidStart => "invalid start byte"
  | .invalidContinuation => "invalid continuation byte"
  | .unexpectedEnd => "unexpected end of data"

/-- The message for a fault, which shows the byte if there is only one. -/
def Fault.message (f : Fault) : String :=
  let place :=
    if f.width = 1 then
      "byte 0x" ++ String.ofList (hexDigits 2 f.byte.toNat) ++ s!" in position {f.position}"
    else s!"bytes in position {f.position}-{f.position + f.width - 1}"
  "'utf-8' codec can't decode " ++ place ++ ": " ++ f.kind.message

end SymbolGraph.Text.Utf8
