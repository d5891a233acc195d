import Mathlib.Logic.Function.Basic
import Switchboard.CommandLine.Setting

/-
This file gives every setting a type of values, says which texts spell a value, and states the
configuration that a choice of values asks for.
-/

namespace Switchboard.CommandLine

section Values

/-- A kind of settings has these values, and no value is out of its range. -/
abbrev Kind.Content : Kind → Type
  | .text => String
  | .port => UInt16
  | .number => UInt64
  | .flag => Bool

abbrev Setting.Content (setting : Setting) : Type := setting.kind.Content

/-- A number is spelled in decimal; a plus sign and zeros may stand before its digits. -/
def IsNumeral (raw : String) (number : Nat) : Prop :=
  ∃ (signed : Bool) (zeros : Nat), raw.toList =
    (if signed then ['+'] else []) ++ (List.replicate zeros '0' ++ Nat.toDigits 10 number)

/-- A text is its own value, and a flag is spelled out. -/
def Kind.Spells : (kind : Kind) → String → kind.Content → Prop
  | .text, raw, content => raw = content
  | .port, raw, content => IsNumeral raw content.toNat
  | .number, raw, content => IsNumeral raw content.toNat
  | .flag, raw, content => raw = if content then "true" else "false"

/-- The scanner holds values of all kinds in one type. -/
def Kind.value : (kind : Kind) → kind.Content → Value
  | .text, content => .text content
  | .port, content => .number content.toNat
  | .number, content => .number content.toNat
  | .flag, content => .flag content

end Values

section Numerals

variable {raw : String} {number : Nat}

theorem isDigit_of_mem_numeral {zeros : Nat} {character : Char}
    (member : character ∈ List.replicate zeros '0' ++ Nat.toDigits 10 number) :
    character.isDigit := by
  rcases List.mem_append.1 member with isZero | isOwn
  · rw [List.eq_of_mem_replicate isZero]
    decide
  · exact Nat.isDigit_of_mem_toDigits (by decide) (by decide) isOwn

/-- Zeros in front do not count. -/
theorem readDigits_numeral (zeros number : Nat) :
    readDigits (List.replicate zeros '0' ++ Nat.toDigits 10 number) = some number := by
  have nonempty : List.replicate zeros '0' ++ Nat.toDigits 10 number ≠ [] := by
    intro nothing
    exact Nat.toDigits_ne_nil (List.append_eq_nil_iff.1 nothing).2
  have digits : (List.replicate zeros '0' ++ Nat.toDigits 10 number).all Char.isDigit :=
    List.all_eq_true.2 fun _ => isDigit_of_mem_numeral
  have weighed (characters : List Char) :
      characters.foldl (fun total digit => total * 10 + (digit.toNat - 0x30)) 0 =
        Nat.ofDigitChars 10 characters 0 := by
    rw [Nat.ofDigitChars_eq_foldl]
    congr 1
    funext total digit
    rw [Nat.mul_comm]
    rfl
  rw [readDigits, if_pos ⟨nonempty, digits⟩, weighed, Nat.ofDigitChars_append,
    Nat.ofDigitChars_replicate_zero, Nat.mul_zero, Nat.ofDigitChars_ten_toDigits]

theorem readNumber_of_isNumeral (spelled : IsNumeral raw number) :
    readNumber raw = some number := by
  obtain ⟨signed, zeros, characters⟩ := spelled
  rw [readNumber, characters]
  cases signed with
  | true => exact readDigits_numeral zeros number
  | false =>
      split
      · next rest starts =>
          have digit : '+'.isDigit :=
            isDigit_of_mem_numeral (starts ▸ List.mem_cons_self)
          cases digit
      · exact readDigits_numeral zeros number

/-- No numeral has a minus sign, so a port is read like every number. -/
theorem readPort_of_isNumeral (spelled : IsNumeral raw number) : readPort raw = some number := by
  have read := readNumber_of_isNumeral spelled
  obtain ⟨signed, zeros, characters⟩ := spelled
  rw [readPort]
  split
  · next rest starts =>
      rw [characters] at starts
      cases signed with
      | true => cases starts
      | false =>
          have digit : '-'.isDigit :=
            isDigit_of_mem_numeral (starts ▸ List.mem_cons_self)
          cases digit
  · exact read

end Numerals

/-- A text is read as the value that it spells. -/
theorem Kind.read_of_spells {kind : Kind} {raw : String} {content : kind.Content}
    (spelled : kind.Spells raw content) : kind.read raw = .ok (kind.value content) := by
  cases kind with
  | text =>
      rw [Spells] at spelled
      rw [read, value, spelled]
  | port =>
      have range : content.toNat ≤ 65535 := Nat.le_of_lt_succ content.toNat_lt
      rw [read, readPort_of_isNumeral spelled, readAtMost, if_pos range, value]
  | number =>
      have range : content.toNat ≤ 18446744073709551615 := Nat.le_of_lt_succ content.toNat_lt
      rw [read, readNumber_of_isNumeral spelled, readAtMost, if_pos range, value]
  | flag =>
      rw [Spells] at spelled
      rw [read, spelled]
      cases content <;> rfl

/-- A selection has values for some of the settings. -/
abbrev Selection : Type := (setting : Setting) → Option setting.Content

section Fields

/-- A span of time is given in milliseconds. -/
def milliseconds (count : UInt64) : Duration := ⟨count.toNat * 1000000⟩

/-- Every field has a setting of its own, and a default if that is not selected. -/
def Selection.config (selected : Selection) : Config where
  listen :=
    { host := (selected .host).getD "localhost"
      port := (selected .port).getD (9000 : UInt16)
      pathPrefix := (selected .pathPrefix).getD ""
      requestTimeout := (selected .requestTimeout).map milliseconds
      maxBodySize := ((selected .maxBodySize).map UInt64.toNat).getD 104857600 }
  remote :=
    { baseUrl := (selected .outboundBaseUrl).getD "http://localhost:32321/outbound"
      timeout := (selected .outboundTimeout).map milliseconds
      connectTimeout := (selected .connectTimeout).map milliseconds }
  transport :=
    { tls := (selected .secure).getD false
      compress := (selected .compress).getD false
      http2 := (selected .http2).getD false
      wiretap := (selected .wiretap).getD false }

/-- Two configurations are the same but for the field of one setting. -/
structure AgreeExcept (setting : Setting) (first second : Config) : Prop where
  host : setting ≠ .host → first.listen.host = second.listen.host
  port : setting ≠ .port → first.listen.port = second.listen.port
  pathPrefix : setting ≠ .pathPrefix → first.listen.pathPrefix = second.listen.pathPrefix
  requestTimeout :
    setting ≠ .requestTimeout → first.listen.requestTimeout = second.listen.requestTimeout
  maxBodySize : setting ≠ .maxBodySize → first.listen.maxBodySize = second.listen.maxBodySize
  baseUrl : setting ≠ .outboundBaseUrl → first.remote.baseUrl = second.remote.baseUrl
  timeout : setting ≠ .outboundTimeout → first.remote.timeout = second.remote.timeout
  connectTimeout :
    setting ≠ .connectTimeout → first.remote.connectTimeout = second.remote.connectTimeout
  tls : setting ≠ .secure → first.transport.tls = second.transport.tls
  compress : setting ≠ .compress → first.transport.compress = second.transport.compress
  http2 : setting ≠ .http2 → first.transport.http2 = second.transport.http2
  wiretap : setting ≠ .wiretap → first.transport.wiretap = second.transport.wiretap

/-- A setting that is selected otherwise changes its own field only. -/
theorem Selection.agreeExcept_config {setting : Setting} {selected other : Selection}
    (same : ∀ another, setting ≠ another → selected another = other another) :
    AgreeExcept setting selected.config other.config := by
  constructor <;> intro different <;> dsimp only [config] <;> rw [same _ different]

/-- A value is put into the field of its setting. -/
theorem Selection.apply_config (setting : Setting) (content : setting.Content)
    (selected : Selection) :
    setting.apply (setting.kind.value content) selected.config =
      config (Function.update selected setting (some content)) := by
  cases setting with
  | port =>
      have own : UInt16.ofNat (UInt16.toNat content) = content := UInt16.ofNat_toNat
      have applied : Setting.apply .port (Kind.value .port content) selected.config =
          { selected.config with listen :=
            { selected.config.listen with port := UInt16.ofNat (UInt16.toNat content) } } := rfl
      rw [own] at applied
      exact applied
  | _ => rfl

end Fields

end Switchboard.CommandLine
