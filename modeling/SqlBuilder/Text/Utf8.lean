/-!
UTF-8. Bytes are decoded one at a time; a sequence that breaks off stands for the given replacement,
and the byte that broke it is looked at again.
-/

namespace SqlBuilder.Text

/-- A byte, or a character that is no byte and so ends a sequence of bytes. -/
inductive Octet where
  | byte (b : Nat)
  | whole (c : Char)

/-- How many bytes a sequence still lacks, the range of the next of them, and the bits read so far. -/
inductive Utf8State where
  | start
  | inside (lacking low high bits : Nat)
deriving DecidableEq

namespace Utf8State

/-- The state after a byte that may start a character, with the character if it is complete. -/
def ofFirst? (b : Nat) : Option (List Char × Utf8State) :=
  if b < 0x80 then some ([Char.ofNat b], .start)
  else if b < 0xc2 then none
  else if b < 0xe0 then some ([], .inside 1 0x80 0xbf (b - 0xc0))
  else if b = 0xe0 then some ([], .inside 2 0xa0 0xbf 0)
  else if b = 0xed then some ([], .inside 2 0x80 0x9f (b - 0xe0))
  else if b < 0xf0 then some ([], .inside 2 0x80 0xbf (b - 0xe0))
  else if b = 0xf0 then some ([], .inside 3 0x90 0xbf 0)
  else if b < 0xf4 then some ([], .inside 3 0x80 0xbf (b - 0xf0))
  else if b = 0xf4 then some ([], .inside 3 0x80 0x8f (b - 0xf0))
  else none

def afterFirst (replacement : List Char) (b : Nat) : List Char × Utf8State :=
  (ofFirst? b).getD (replacement, .start)

def step (replacement : List Char) (b : Nat) : Utf8State → List Char × Utf8State
  | .start => afterFirst replacement b
  | .inside lacking low high bits =>
    if low ≤ b ∧ b ≤ high then
      let bits := 64 * bits + (b - 0x80)
      if lacking ≤ 1 then ([Char.ofNat bits], .start) else ([], .inside (lacking - 1) 0x80 0xbf bits)
    else
      let (here, state) := afterFirst replacement b
      (replacement ++ here, state)

/-- What an unfinished sequence stands for. -/
def finish (replacement : List Char) : Utf8State → List Char
  | .start => []
  | .inside .. => replacement

end Utf8State

def decodeFrom (replacement : List Char) (state : Utf8State) : List Octet → List Char
  | [] => state.finish replacement
  | .whole c :: rest => state.finish replacement ++ c :: decodeFrom replacement .start rest
  | .byte b :: rest =>
    let (here, next) := state.step replacement b
    here ++ decodeFrom replacement next rest

def decodeUtf8 (replacement : List Char) (octets : List Octet) : List Char :=
  decodeFrom replacement .start octets

def replacementChar : Char := Char.ofNat 0xfffd

def encodeChar (c : Char) : List Nat :=
  let n := c.toNat
  if n < 0x80 then [n]
  else if n < 0x800 then [0xc0 + n / 64, 0x80 + n % 64]
  else if n < 0x10000 then [0xe0 + n / 4096, 0x80 + n / 64 % 64, 0x80 + n % 64]
  else [0xf0 + n / 262144, 0x80 + n / 4096 % 64, 0x80 + n / 64 % 64, 0x80 + n % 64]

end SqlBuilder.Text
