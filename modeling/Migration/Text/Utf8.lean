import Migration.Text.Basic

namespace Migration.Utf8

/-! Strict UTF-8.

Bytes are the encoding of a text or they are refused; nothing is replaced or skipped.  A refusal
says how long the readable start of the bytes is and how many bytes the first unreadable sequence
has, or that the bytes stop inside a sequence.
-/

def encode (text : Text) : List UInt8 :=
  text.flatMap String.utf8EncodeChar

structure Fault where
  /-- Number of bytes before the first sequence that cannot be read. -/
  index : Nat
  /-- Number of bytes of that sequence; none if the bytes end before it is complete. -/
  width : Option Nat
deriving DecidableEq, Repr

def Fault.message (fault : Fault) : String :=
  match fault.width with
  | some width => s!"invalid utf-8 sequence of {width} bytes from index {fault.index}"
  | none => s!"incomplete utf-8 byte sequence from index {fault.index}"

def isContinuation (byte : UInt8) : Bool :=
  0x80 ≤ byte && byte ≤ 0xBF

/-- Second bytes allowed behind the first byte of a three-byte sequence: neither a shorter sequence
would do nor is the result a surrogate. -/
def secondOfThree (first second : UInt8) : Bool :=
  (if first = 0xE0 then 0xA0 else 0x80) ≤ second &&
    second ≤ (if first = 0xED then 0x9F else 0xBF)

/-- Second bytes allowed behind the first byte of a four-byte sequence: the result needs four bytes
and is a Unicode code point. -/
def secondOfFour (first second : UInt8) : Bool :=
  (if first = 0xF0 then 0x90 else 0x80) ≤ second &&
    second ≤ (if first = 0xF4 then 0x8F else 0xBF)

def payload (byte : UInt8) (size : Nat) : Nat :=
  byte.toNat % size

/-- Reads the bytes from position `index` on; `done` holds the characters read before, the last one
first. -/
def decodeFrom (done : Text) (index : Nat) : List UInt8 → Except Fault Text
  | [] => .ok done.reverse
  | first :: rest =>
      if first < 0x80 then
        decodeFrom (Char.ofNat first.toNat :: done) (index + 1) rest
      else if 0xC2 ≤ first && first ≤ 0xDF then
        match rest with
        | [] => .error ⟨index, none⟩
        | second :: rest =>
            if isContinuation second then
              decodeFrom (Char.ofNat (payload first 32 * 64 + payload second 64) :: done)
                (index + 2) rest
            else .error ⟨index, some 1⟩
      else if 0xE0 ≤ first && first ≤ 0xEF then
        match rest with
        | [] => .error ⟨index, none⟩
        | second :: rest =>
            if secondOfThree first second then
              match rest with
              | [] => .error ⟨index, none⟩
              | third :: rest =>
                  if isContinuation third then
                    decodeFrom
                      (Char.ofNat ((payload first 16 * 64 + payload second 64) * 64 +
                        payload third 64) :: done)
                      (index + 3) rest
                  else .error ⟨index, some 2⟩
            else .error ⟨index, some 1⟩
      else if 0xF0 ≤ first && first ≤ 0xF4 then
        match rest with
        | [] => .error ⟨index, none⟩
        | second :: rest =>
            if secondOfFour first second then
              match rest with
              | [] => .error ⟨index, none⟩
              | third :: rest =>
                  if isContinuation third then
                    match rest with
                    | [] => .error ⟨index, none⟩
                    | fourth :: rest =>
                        if isContinuation fourth then
                          decodeFrom
                            (Char.ofNat (((payload first 8 * 64 + payload second 64) * 64 +
                              payload third 64) * 64 + payload fourth 64) :: done)
                            (index + 4) rest
                        else .error ⟨index, some 3⟩
                  else .error ⟨index, some 2⟩
            else .error ⟨index, some 1⟩
      else .error ⟨index, some 1⟩

def decode (bytes : List UInt8) : Except Fault Text :=
  decodeFrom [] 0 bytes

/-- The line, counted from one, on which the unreadable sequence begins. -/
def Fault.line (bytes : List UInt8) (fault : Fault) : Nat :=
  (bytes.take fault.index).count 10 + 1

end Migration.Utf8
