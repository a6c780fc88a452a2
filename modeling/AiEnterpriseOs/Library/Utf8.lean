import Mathlib.Data.List.Basic

/-!
# UTF-8 decoding

Bytes are read one at a time. Every character yields itself and every maximal
ill-formed sequence yields one mark; strict decoding fails on a mark, lenient
decoding puts the replacement character in its place.
-/

namespace AiEnterpriseOs.Library

namespace Utf8

/-- A character whose bytes are not all read: its bits so far, how many bytes
it still needs and the range of the next one. -/
structure Pending where
  bits : Nat
  owed : Nat
  low : UInt8 := 0x80
  high : UInt8 := 0xBF

def lead (byte : UInt8) : Option Pending :=
  if 0xC2 ≤ byte ∧ byte ≤ 0xDF then some { bits := byte.toNat - 0xC0, owed := 1 }
  else if byte = 0xE0 then some { bits := 0, owed := 2, low := 0xA0 }
  else if byte = 0xED then some { bits := 0xD, owed := 2, high := 0x9F }
  else if 0xE1 ≤ byte ∧ byte ≤ 0xEF then some { bits := byte.toNat - 0xE0, owed := 2 }
  else if byte = 0xF0 then some { bits := 0, owed := 3, low := 0x90 }
  else if 0xF1 ≤ byte ∧ byte ≤ 0xF3 then some { bits := byte.toNat - 0xF0, owed := 3 }
  else if byte = 0xF4 then some { bits := 4, owed := 3, high := 0x8F }
  else none

/-- What a byte between characters yields, and what is pending after it. -/
def startByte (byte : UInt8) : List (Option Char) × Option Pending :=
  if byte < 0x80 then ([some (Char.ofNat byte.toNat)], none)
  else
    match lead byte with
    | some pending => ([], some pending)
    | none => ([none], none)

def nextByte (state : Option Pending) (byte : UInt8) : List (Option Char) × Option Pending :=
  match state with
  | none => startByte byte
  | some pending =>
    if pending.low ≤ byte ∧ byte ≤ pending.high then
      let bits := pending.bits * 64 + (byte.toNat - 0x80)
      if pending.owed = 1 then ([some (Char.ofNat bits)], none)
      else ([], some { bits := bits, owed := pending.owed - 1 })
    else
      -- the bytes before this one are ill-formed, this one is read anew
      (none :: (startByte byte).1, (startByte byte).2)

def symbols : Option Pending → List UInt8 → List (Option Char)
  | none, [] => []
  | some _, [] => [none]
  | state, byte :: rest =>
    (nextByte state byte).1 ++ symbols (nextByte state byte).2 rest

/-- `bytes.decode("utf-8")`. -/
def decode (bytes : List UInt8) : Option (List Char) :=
  (symbols none bytes).allSome

/-- `bytes.decode("utf-8", errors="replace")`. -/
def decodeReplacing (bytes : List UInt8) : List Char :=
  (symbols none bytes).map fun symbol => symbol.getD '\uFFFD'

theorem symbols_cons (state : Option Pending) (byte : UInt8) (rest : List UInt8) :
    symbols state (byte :: rest) =
      (nextByte state byte).1 ++ symbols (nextByte state byte).2 rest := by
  cases state <;> rfl

theorem all_some_eq_some (marks : List (Option Char)) (text : List Char) :
    marks.allSome = some text ↔ marks = text.map some := by
  unfold List.allSome
  induction marks generalizing text with
  | nil => cases text <;> simp
  | cons mark rest ih =>
    cases mark with
    | none => cases text <;> simp
    | some char =>
      cases restText : rest.mapM id with
      | none =>
        have absent : ∀ others : List Char, rest ≠ others.map some := by
          intro others same
          rw [(ih others).mpr same] at restText
          cases restText
        cases text <;> simp [restText, absent]
      | some found =>
        have same := (ih found).mp restText
        cases text with
        | nil => simp [restText]
        | cons first others =>
          simp only [List.mapM_cons, id_eq, restText, Option.bind_eq_bind,
            Option.bind_some, Option.pure_def, Option.some.injEq,
            List.cons.injEq, List.map_cons]
          rw [same, List.map_inj_right fun _ _ => Option.some.inj]

theorem decode_eq_some (bytes : List UInt8) (text : List Char) :
    decode bytes = some text ↔ symbols none bytes = text.map some :=
  all_some_eq_some _ text

theorem symbols_append (state : Option Pending) (first second : List UInt8)
    (text : List Char) (complete : symbols state first = text.map some) :
    symbols state (first ++ second) = text.map some ++ symbols none second := by
  induction first generalizing state text with
  | nil =>
    cases state with
    | none =>
      rw [symbols] at complete
      rw [List.nil_append, ← complete, List.nil_append]
    | some pending =>
      cases text <;> simp [symbols] at complete
  | cons byte rest ih =>
    rw [symbols_cons] at complete
    obtain ⟨emitted, remaining, same, front, back⟩ :=
      List.append_eq_map_iff.mp complete
    rw [List.cons_append, symbols_cons, ih _ remaining back.symm, ← front, same,
      List.map_append, List.append_assoc]

theorem decode_append (first second : List UInt8) (text : List Char)
    (complete : decode first = some text) :
    decode (first ++ second) = (decode second).map fun rest => text ++ rest := by
  have joined := symbols_append none first second text ((decode_eq_some first text).mp complete)
  cases found : decode second with
  | some rest =>
    rw [Option.map_some, decode_eq_some, joined, (decode_eq_some second rest).mp found,
      List.map_append]
  | none =>
    rw [Option.map_none, Option.eq_none_iff_forall_ne_some]
    intro whole decoded
    rw [decode_eq_some, joined] at decoded
    obtain ⟨_, back, _, _, same⟩ := List.append_eq_map_iff.mp decoded
    rw [(decode_eq_some second back).mpr same.symm] at found
    cases found

theorem decode_replacing (bytes : List UInt8) (text : List Char)
    (wellFormed : decode bytes = some text) : decodeReplacing bytes = text := by
  rw [decodeReplacing, (decode_eq_some bytes text).mp wellFormed, List.map_map]
  exact List.map_id text

end Utf8

end AiEnterpriseOs.Library
