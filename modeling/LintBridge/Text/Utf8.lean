/-!
# UTF-8 octets

Output of a child process arrives as octets and is read leniently; a settings file is read strictly.
Both readings share one step: the octets at the front of the input either begin with the encoding of
a character, or with a **maximal invalid part**, the longest stretch that could have been the
beginning of one, together with the reason why it is not.

* `LintBridge.Text.Utf8.encode` – the octets of a text;
* `LintBridge.Text.Utf8.next` – one step;
* `LintBridge.Text.Utf8.decodeReplacing` – each maximal invalid part becomes one `U+FFFD`;
* `LintBridge.Text.Utf8.decode?` – the first invalid part is reported as a `Fault` with its place.
-/

namespace LintBridge.Text.Utf8

/-- The octets of a text. -/
def encode (s : String) : List UInt8 :=
  s.toUTF8.toList

/-- Why a stretch of octets is not a character. -/
inductive Reason where
  /-- The first octet begins no character. -/
  | badStart
  /-- An octet that is not a continuation stands where one is due. -/
  | badContinuation
  /-- The input ends within a character. -/
  | truncated
  deriving DecidableEq, Repr

/-- The words for a reason. -/
def Reason.message : Reason → String
  | .badStart => "invalid start byte"
  | .badContinuation => "invalid continuation byte"
  | .truncated => "unexpected end of data"

/-- What stands at the front of the input. -/
inductive Piece where
  /-- A character. -/
  | scalar (c : Char)
  /-- A maximal invalid part of `length` octets. -/
  | invalid (reason : Reason) (length : Nat)

/-- What the first octet of a longer character promises: the bits it carries, the range of the
second octet, and the number of octets to follow. -/
structure Lead where
  /-- The bits of the code point the first octet holds. -/
  bits : Nat
  /-- The least second octet. -/
  low : UInt8
  /-- The greatest second octet. -/
  high : UInt8
  /-- The number of octets to follow. -/
  count : Nat

/-- The promise of a first octet, absent for ASCII and for octets that begin no character. -/
def Lead.of? (b : UInt8) : Option Lead :=
  if 0xC2 ≤ b && b ≤ 0xDF then some ⟨b.toNat - 0xC0, 0x80, 0xBF, 1⟩
  else if b == 0xE0 then some ⟨0, 0xA0, 0xBF, 2⟩
  else if b == 0xED then some ⟨0xD, 0x80, 0x9F, 2⟩
  else if 0xE1 ≤ b && b ≤ 0xEF then some ⟨b.toNat - 0xE0, 0x80, 0xBF, 2⟩
  else if b == 0xF0 then some ⟨0, 0x90, 0xBF, 3⟩
  else if 0xF1 ≤ b && b ≤ 0xF3 then some ⟨b.toNat - 0xF0, 0x80, 0xBF, 3⟩
  else if b == 0xF4 then some ⟨4, 0x80, 0x8F, 3⟩
  else none

/-- Reads the `count` octets that are to follow, of which the next lies between `low` and `high`;
`seen` octets are read already and carry `bits`. -/
def tail (seen bits : Nat) : (count : Nat) → (low high : UInt8) → List UInt8 → Piece × List UInt8
  | 0, _, _, rest => (.scalar (Char.ofNat bits), rest)
  | _ + 1, _, _, [] => (.invalid .truncated seen, [])
  | count + 1, low, high, b :: rest =>
    if low ≤ b && b ≤ high then
      tail (seen + 1) (bits * 64 + (b.toNat - 0x80)) count 0x80 0xBF rest
    else
      (.invalid .badContinuation seen, b :: rest)

/-- The piece at the front of the input that begins with `b`, and what follows it. -/
def next (b : UInt8) (rest : List UInt8) : Piece × List UInt8 :=
  if b < 0x80 then (.scalar (Char.ofNat b.toNat), rest)
  else
    match Lead.of? b with
    | none => (.invalid .badStart 1, rest)
    | some lead => tail 1 lead.bits lead.count lead.low lead.high rest

theorem tail_length (seen bits count : Nat) (low high : UInt8) (bs : List UInt8) :
    (tail seen bits count low high bs).2.length ≤ bs.length := by
  fun_induction tail seen bits count low high bs with
  | case1 => simp
  | case2 => simp
  | case3 seen bits count low high b rest h ih => simp only [List.length_cons]; omega
  | case4 => simp

theorem next_length (b : UInt8) (rest : List UInt8) : (next b rest).2.length ≤ rest.length := by
  unfold next
  split
  · simp
  · split
    · simp
    · exact tail_length ..

/-- The characters of a list of octets, with one `U+FFFD` for each maximal invalid part. -/
def decodeReplacing : List UInt8 → List Char
  | [] => []
  | b :: rest =>
    let c :=
      match (next b rest).1 with
      | .scalar c => c
      | .invalid _ _ => '\uFFFD'
    c :: decodeReplacing (next b rest).2
  termination_by bs => bs.length
  decreasing_by
    have := next_length b rest
    simp only [List.length_cons]
    omega

/-- An invalid part of a list of octets. -/
structure Fault where
  /-- The number of octets before the part. -/
  position : Nat
  /-- The octets of the part. -/
  octets : List UInt8
  /-- Why they are not a character. -/
  reason : Reason

/-- The characters of a list of octets that follows `position` others, or the first invalid part. -/
def decodeFrom (position : Nat) : List UInt8 → Except Fault (List Char)
  | [] => .ok []
  | b :: rest =>
    match (next b rest).1 with
    | .scalar c =>
      (decodeFrom (position + ((rest.length + 1) - (next b rest).2.length)) (next b rest).2).map
        (c :: ·)
    | .invalid reason length => .error ⟨position, (b :: rest).take length, reason⟩
  termination_by bs => bs.length
  decreasing_by
    have := next_length b rest
    simp only [List.length_cons]
    omega

/-- The characters of a list of octets, or the first invalid part. -/
def decode? (bs : List UInt8) : Except Fault (List Char) :=
  decodeFrom 0 bs

/-- Two lower-case hexadecimal digits. -/
def hexOctet (b : UInt8) : String :=
  let digits := Nat.toDigits 16 b.toNat
  String.ofList (if digits.length < 2 then '0' :: digits else digits)

/-- The words for an invalid part: one octet is shown, several are given by their places. -/
def Fault.message (fault : Fault) : String :=
  let place :=
    match fault.octets with
    | [b] => s!"byte 0x{hexOctet b} in position {fault.position}"
    | bs => s!"bytes in position {fault.position}-{fault.position + bs.length - 1}"
  s!"'utf-8' codec can't decode {place}: {fault.reason.message}"

end LintBridge.Text.Utf8
