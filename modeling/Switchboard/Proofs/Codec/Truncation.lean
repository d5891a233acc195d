import Switchboard.Proofs.Codec
import Switchboard.Proofs.Json.Stability
import Switchboard.Proofs.MessagePack.Stability

/-
This file shows that both codecs refuse every payload that was cut off, wherever the cut is and
whatever is expected.
-/

namespace Switchboard

/-- Nothing was cut off a value that was read, if the reader of the whole leaves nothing behind it. -/
theorem Stable.behind_eq_nil {φ α : Type} {ends : Bytes → Prop} {cut behind rest : Bytes}
    {result : Except φ (α × Bytes)} {extended : Bytes → Except φ (α × Bytes)}
    (stable : Stable ends cut result extended) {value : α} (read : result = .ok (value, rest))
    (ended : ends behind) {gives : Mismatch → φ → Prop} {outcome : Except Refusal α}
    (follows : Follows gives (extended behind) [] outcome) : behind = [] := by
  obtain ⟨_, unchanged⟩ := stable value rest read
  rw [unchanged behind fun _ => ended] at follows
  exact (List.append_eq_nil_iff.1 follows.left_eq).2

namespace MessagePack

theorem write_ne_nil {datum : Datum} (writable : IsWritable datum) : write datum ≠ [] := by
  intro nothing
  have head := readHead_write writable []
  rw [nothing] at head
  cases head

/-- The reader misses what was cut off, also if the value nests too deep to be read as a whole. -/
theorem exists_fault_of_cut {datum : Datum} (writable : IsWritable datum) {cut : Bytes}
    (isPrefix : cut <+: write datum) (proper : cut ≠ write datum) (target : Shape) :
    ∃ fault, readPayload target cut = .error fault := by
  cases result : readPayload target cut with
  | error fault => exact ⟨fault, rfl⟩
  | ok value =>
      obtain ⟨⟨found, rest⟩, read, _⟩ := bind_eq_ok.1 result
      obtain ⟨behind, whole⟩ := isPrefix
      -- a reader with room for the whole value would read the same value and leave the rest of it
      have roomy : Readable (max maximalDepth datum.depth) datum :=
        ⟨writable, Nat.le_max_right ..⟩
      have stable := widens_readShape target (Nat.le_max_left maximalDepth datum.depth) cut
      have follows := readShape_write target _ roomy []
      rw [List.append_nil, ← whole] at follows
      rw [stable.behind_eq_nil read trivial follows, List.append_nil] at whole
      exact absurd whole proper

end MessagePack

namespace Json

theorem not_startsNumber_write {datum : Datum} (notNumber : ¬ datum.isNumber) {payload : Bytes}
    (written : write datum = .ok payload) : startsNumber payload = false := by
  match datum with
  | .int _ | .float _ => exact absurd rfl notNumber
  | .null | .bool true | .bool false | .text _ | .list [] | .object [] | .pairs [] =>
      rw [write, Except.ok.injEq] at written
      rw [← written]
      rfl
  | .list (_ :: _) =>
      obtain ⟨_, _, _, _, same⟩ := write_list_cons.1 written
      rw [← same]
      rfl
  | .object (_ :: _) =>
      obtain ⟨_, _, _, _, same⟩ := write_object_cons.1 written
      rw [← same]
      rfl
  | .pairs (_ :: _) => simp [write] at written

/-- No part of a value starts like a number if the whole value does not. -/
theorem not_startsNumber_cut {datum : Datum} (notNumber : ¬ datum.isNumber) {cut behind : Bytes}
    (written : write datum = .ok (cut ++ behind)) : startsNumber (skipBlanks cut) = false := by
  cases cut with
  | nil => rfl
  | cons byte cut =>
      obtain ⟨first, more, same, starts⟩ := write_eq_cons written
      rw [List.cons_append, List.cons.injEq] at same
      rw [same.1, skipBlanks_cons starts.solid]
      have whole := not_startsNumber_write notNumber written
      rw [List.cons_append, same.1] at whole
      exact whole

/-- The reader misses what was cut off, also if the value nests too deep to be read as a whole. -/
theorem exists_fault_of_cut {datum : Datum} (plain : datum.hasPlainIntegers)
    (floatFree : datum.isFloatFree) (notNumber : ¬ datum.isNumber) {payload : Bytes}
    (written : write datum = .ok payload) {cut : Bytes} (isPrefix : cut <+: payload)
    (proper : cut ≠ payload) (target : Shape) :
    ∃ fault, readPayload target cut = .error fault := by
  cases result : readPayload target cut with
  | error fault => exact ⟨fault, rfl⟩
  | ok value =>
      obtain ⟨⟨found, rest⟩, read, _⟩ := bind_eq_ok.1 result
      obtain ⟨behind, rfl⟩ := isPrefix
      have roomy : Readable (max maximalDepth datum.depth) datum :=
        ⟨plain, floatFree, Nat.le_max_right ..⟩
      have stable := widens_readShape target (Nat.le_max_left maximalDepth datum.depth) cut
      have follows := readShape_write target _ roomy _ [] written fun _ => rfl
      have ended : EndsValue cut behind := by
        intro starts
        rw [not_startsNumber_cut notNumber written] at starts
        cases starts
      rw [List.append_nil] at follows
      rw [stable.behind_eq_nil read ended follows, List.append_nil] at proper
      exact absurd rfl proper

end Json

namespace Codec

/--
No payload that lost some of its last bytes is decoded, whatever is expected of it. Only a number
can lose digits in one of the formats and still be a number.
-/
theorem cut_refused {source : Shape} {datum : Datum} (held : source.holds datum)
    (floatFree : datum.isFloatFree) (short : datum.isShort) {codec : Codec} {payload : Bytes}
    (encoded : codec.encode datum = .ok payload) (delimited : codec = .json → ¬ datum.isNumber) :
    payload ≠ [] ∧ ∀ cut, cut <+: payload → cut ≠ payload → ∀ target : Shape,
      ∃ reason, codec.decode target cut = .error (.decode reason) := by
  have plain := Shape.hasPlainIntegers_of_holds held
  cases codec with
  | json =>
      have written := encode_json_eq_ok.1 encoded
      obtain ⟨byte, more, rfl, _⟩ := Json.write_eq_cons written
      refine ⟨List.cons_ne_nil byte more, fun cut isPrefix proper target => ?_⟩
      obtain ⟨fault, refused⟩ := Json.exists_fault_of_cut plain floatFree (delimited rfl) written
        isPrefix proper target
      rw [decode, refused]
      exact ⟨_, rfl⟩
  | messagePack =>
      rw [encode, Except.ok.injEq] at encoded
      subst encoded
      refine ⟨MessagePack.write_ne_nil ⟨plain, short⟩, fun cut isPrefix proper target => ?_⟩
      obtain ⟨fault, refused⟩ := MessagePack.exists_fault_of_cut ⟨plain, short⟩ isPrefix proper
        target
      rw [decode, refused]
      exact ⟨_, rfl⟩

/-- A bracket inside of a text closes no list, and half of an integer is none. -/
theorem cut_refused_inside :
    (∃ reason, json.decode (.list .text) [0x5B, 0x22, 0x5D] = .error (.decode reason)) ∧
      ∃ reason, messagePack.decode .any [0x92, 0xCD, 0x01] = .error (.decode reason) := by
  have bracket : json.encode (.list [.text "]"]) = .ok [0x5B, 0x22, 0x5D, 0x22, 0x5D] := rfl
  have integer : messagePack.encode (.list [.int 256, .null]) =
      .ok [0x92, 0xCD, 0x01, 0x00, 0xC0] := rfl
  constructor
  · have held : (Shape.list .text).holds (.list [.text "]"]) := by decide
    obtain ⟨_, refused⟩ := cut_refused held (by decide) (by decide) bracket fun _ => by decide
    exact refused [0x5B, 0x22, 0x5D] ⟨[0x22, 0x5D], rfl⟩ (by decide) (.list .text)
  · have held : Shape.any.holds (.list [.int 256, .null]) := by decide
    obtain ⟨_, refused⟩ := cut_refused held (by decide) (by decide) integer nofun
    exact refused [0x92, 0xCD, 0x01] ⟨[0x00, 0xC0], rfl⟩ (by decide) .any

end Codec

end Switchboard
