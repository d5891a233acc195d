import Switchboard.Proofs.MessagePack.Bounds
import Switchboard.Proofs.Stability

/-
This file shows that more bytes behind a MessagePack value, and more room for its containers, never
change what is read.
-/

namespace Switchboard.MessagePack

section Heads

theorem widens_readMarker : Widens Anything readMarker readMarker := by
  intro bytes
  cases bytes with
  | nil => exact .error _
  | cons byte rest => exact (Stable.ok _).behind

theorem widens_readExactly (fault : Fault) (length : Nat) :
    Widens Anything (readExactly fault length) (readExactly fault length) := by
  intro bytes content rest read
  rw [readExactly] at read
  split at read
  · cases read
  next enough =>
  cases read
  refine ⟨List.drop_suffix _ _, fun behind _ => ?_⟩
  have fits : length ≤ bytes.length := by
    rw [List.length_take] at enough
    omega
  dsimp only
  rw [readExactly, List.take_append_of_le_length fits, List.drop_append_of_le_length fits]
  exact if_neg enough

theorem widens_readUnsigned (width : Nat) : Widens Anything (readUnsigned width) (readUnsigned width) :=
  fun bytes => (widens_readExactly .noNumber width bytes).bind fun _ _ _ => .ok _

theorem widens_readSigned (width : Nat) : Widens Anything (readSigned width) (readSigned width) :=
  fun bytes => (widens_readUnsigned width bytes).bind fun _ _ _ => .ok _

theorem widens_readAfterMarker (marker : Marker) :
    Widens Anything (readAfterMarker marker) (readAfterMarker marker) := by
  intro bytes
  cases marker with
  | fixPositive _ | fixMap _ | fixArray _ | fixText _ | null | bool _ | fixExtension _
  | fixNegative _ => exact .ok _
  | reserved => exact .error _
  | bytes width | extension width | unsigned width | text width | array width | map width =>
      exact (widens_readUnsigned width bytes).bind fun _ _ _ => .ok _
  | float32 | float64 => exact (widens_readUnsigned _ bytes).bind fun _ _ _ => .ok _
  | signed width => exact (widens_readSigned width bytes).bind fun _ _ _ => .ok _

theorem widens_readHead : Widens Anything readHead readHead :=
  fun bytes => (widens_readMarker bytes).bind fun marker rest _ => widens_readAfterMarker marker rest

theorem widens_readSimpleHead : Widens Anything readSimpleHead readSimpleHead := fun bytes =>
  (widens_readMarker bytes).bind fun marker rest _ =>
    .ite (fun _ => widens_readAfterMarker marker rest) fun _ => .error _

theorem widens_readContent (length : Nat) :
    Widens Anything (readContent length) (readContent length) :=
  widens_readExactly .noContent length

theorem widens_readText (length : Nat) : Widens Anything (readText length) (readText length) := by
  intro bytes
  refine (widens_readContent length bytes).bind fun content rest _ => ?_
  dsimp only
  cases Text.Utf8.decode content with
  | ok text => exact .ok text
  | error fault => exact .error _

/-- A refusal returns nothing, whatever the depth is. -/
theorem stable_refuse {α : Type} {bytes rest : Bytes} {depth : Nat} {expected : String} {head : Head}
    {extended : Bytes → Except Fault (α × Bytes)} :
    Stable Anything bytes (refuse depth expected head rest) extended :=
  .of_stopped fun _ => not_refuse

/-- A container that may be opened may also be opened when there is more room. -/
theorem stable_enter {α : Type} {bytes : Bytes} {inner outer : Nat} (roomier : inner ≤ outer)
    {inside : Nat → Except Fault (α × Bytes)} {extended : Bytes → Nat → Except Fault (α × Bytes)}
    (stable : ∀ less more, less ≤ more →
      Stable Anything bytes (inside less) fun behind => extended behind more) :
    Stable Anything bytes (enter inner inside) fun behind => enter outer (extended behind) := by
  cases inner with
  | zero => exact .error _
  | succ inner =>
      obtain ⟨more, rfl⟩ := Nat.exists_eq_add_of_lt roomier
      exact stable inner _ (by omega)

end Heads

section Scalars

theorem widens_readTextValue (inner outer : Nat) (expected : String) :
    Widens Anything (readTextValue inner expected) (readTextValue outer expected) := by
  intro bytes
  refine (widens_readHead bytes).bind fun head rest _ => ?_
  cases head with
  | text length => exact widens_readText length rest
  | bytes length =>
      refine (widens_readContent length rest).bind fun content rest _ => ?_
      dsimp only
      cases Text.Utf8.decode content with
      | ok text => exact .ok text
      | error fault => exact .error _
  | null | bool _ | unsigned _ | signed _ | float _ | list _ | map _ | extension _ =>
      exact stable_refuse

/-- What is made of a value that was read does not depend on what follows it. -/
theorem stable_liftMismatch {α β : Type} (accepted : Except Mismatch α) (change : α → β)
    {rest : Bytes} :
    Stable Anything rest (do let value ← liftMismatch accepted; return (change value, rest))
      fun behind => do let value ← liftMismatch accepted; return (change value, rest ++ behind) := by
  cases accepted with
  | ok value => exact .ok (change value)
  | error mismatch => exact .error _

theorem widens_readInteger (type : IntegerType) :
    Widens Anything (readInteger type) (readInteger type) := by
  intro bytes
  refine (widens_readSimpleHead bytes).bind fun head rest _ => ?_
  cases head with
  | unsigned value | signed value => exact stable_liftMismatch (type.accept _) id
  | null | bool _ | float _ | text _ | bytes _ | list _ | map _ | extension _ =>
      exact stable_refuse

theorem widens_readFirstKey (inner outer : Nat) :
    Widens Anything (readFirstKey inner) (readFirstKey outer) := by
  intro bytes
  refine (widens_readHead bytes).bind fun head rest _ => ?_
  cases head with
  | text length => exact widens_readText length rest
  | null | bool _ | unsigned _ | signed _ | float _ | bytes _ | list _ | map _ | extension _ =>
      exact stable_refuse

theorem widens_readFieldKey (inner outer : Nat) :
    Widens Anything (readFieldKey inner) (readFieldKey outer) := by
  intro bytes
  refine (widens_readHead bytes).bind fun head rest _ => ?_
  cases head with
  | text length | bytes length => exact (widens_readContent length rest).bind fun _ _ _ => .ok _
  | unsigned value => exact .ok _
  | null | bool _ | signed _ | float _ | list _ | map _ | extension _ => exact stable_refuse

theorem widens_readPairItems (expected : String) (length : Nat) :
    Widens Anything (readPairItems expected length) (readPairItems expected length) := by
  intro bytes
  match length with
  | 0 => exact .error _
  | 1 => exact (widens_readInteger .i32 bytes).bind fun _ _ _ => .error _
  | surplus + 2 =>
      refine (widens_readInteger .i32 bytes).bind fun first rest _ => ?_
      refine (widens_readInteger .i32 rest).bind fun second rest _ => ?_
      exact .ite (fun _ => .ok _) fun _ => .error _

theorem widens_readPairKey {inner outer : Nat} (roomier : inner ≤ outer) (expected : String) :
    Widens Anything (readPairKey inner expected) (readPairKey outer expected) := by
  intro bytes
  refine (widens_readHead bytes).bind fun head rest _ => ?_
  cases head with
  | list length =>
      exact stable_enter roomier fun _ _ _ => widens_readPairItems expected length rest
  | bytes length =>
      refine (widens_readContent length rest).bind fun content rest _ => ?_
      exact stable_liftMismatch (pairOfBytes expected content) id
  | null | bool _ | unsigned _ | signed _ | float _ | text _ | map _ | extension _ =>
      exact stable_refuse

end Scalars

section Containers

variable {item itemWide : Reader Datum} (widens : Widens Anything item itemWide)

include widens in
theorem widens_readItems (count : Nat) :
    Widens Anything (readItems item count) (readItems itemWide count) := by
  induction count with
  | zero => exact fun bytes => .ok []
  | succ count inductionHypothesis =>
      intro bytes
      refine (widens bytes).bind fun value rest _ => ?_
      exact (inductionHypothesis rest).bind fun _ _ _ => .ok _

theorem widens_readEntries {κ ν : Type} {key keyWide : Reader κ} {value valueWide : Reader ν}
    (keyWidens : Widens Anything key keyWide) (valueWidens : Widens Anything value valueWide)
    (count : Nat) :
    Widens Anything (readEntries key value count) (readEntries keyWide valueWide count) := by
  induction count with
  | zero => exact fun bytes => .ok []
  | succ count inductionHypothesis =>
      intro bytes
      refine (keyWidens bytes).bind fun name rest _ => ?_
      refine (valueWidens rest).bind fun held rest _ => ?_
      exact (inductionHypothesis rest).bind fun _ _ _ => .ok _

include widens in
theorem widens_readAnyEntries (inner outer count : Nat) :
    Widens Anything (readAnyEntries inner item count) (readAnyEntries outer itemWide count) := by
  cases count with
  | zero => exact fun bytes => .ok []
  | succ count =>
      intro bytes
      refine (widens_readFirstKey inner outer bytes).bind fun name rest _ => ?_
      refine (widens rest).bind fun held rest _ => ?_
      have keys := widens_readTextValue inner outer Shape.text.expected
      exact (widens_readEntries keys widens count rest).bind fun _ _ _ => .ok _

theorem widens_skipTimes {skip skipWide : Reader Unit} (skips : Widens Anything skip skipWide)
    (count : Nat) : Widens Anything (skipTimes skip count) (skipTimes skipWide count) := by
  induction count with
  | zero => exact fun bytes => .ok ()
  | succ count inductionHypothesis =>
      exact fun bytes => (skips bytes).bind fun _ rest _ => inductionHypothesis rest

end Containers

section Values

theorem widens_skipExtension (length : Nat) :
    Widens Anything (skipExtension length) (skipExtension length) := by
  intro bytes
  refine (widens_readExactly .noNumber 1 bytes).bind fun _ rest _ => ?_
  exact (widens_readContent length rest).bind fun _ _ _ => .ok ()

/-- A value that fits into the room is skipped alike when there is more of it. -/
theorem widens_skipValue {inner outer : Nat} (roomier : inner ≤ outer) :
    Widens Anything (skipValue inner) (skipValue outer) := by
  induction inner generalizing outer with
  | zero =>
      intro bytes
      cases outer with
      | zero | succ outer =>
          refine (widens_readHead bytes).bind fun head rest _ => ?_
          cases head with
          | text length | bytes length =>
              exact (widens_readContent length rest).bind fun _ _ _ => .ok ()
          | list _ | map _ | extension _ => exact .error _
          | null | bool _ | unsigned _ | signed _ | float _ => exact .ok ()
  | succ inner inductionHypothesis =>
      obtain ⟨more, rfl⟩ := Nat.exists_eq_add_of_lt roomier
      have inside := inductionHypothesis (show inner ≤ inner + more by omega)
      intro bytes
      refine (widens_readHead bytes).bind fun head rest _ => ?_
      cases head with
      | text length | bytes length =>
          exact (widens_readContent length rest).bind fun _ _ _ => .ok ()
      | list length => exact widens_skipTimes inside length rest
      | map length => exact widens_skipTimes inside (2 * length) rest
      | extension length => exact widens_skipExtension length rest
      | null | bool _ | unsigned _ | signed _ | float _ => exact .ok ()

theorem widens_readAny {inner outer : Nat} (roomier : inner ≤ outer) :
    Widens Anything (readAny inner) (readAny outer) := by
  induction inner generalizing outer with
  | zero =>
      intro bytes
      cases outer with
      | zero | succ outer =>
          refine (widens_readHead bytes).bind fun head rest _ => ?_
          cases head with
          | null | bool _ | unsigned _ | signed _ | float _ => exact .ok _
          | text length => exact (widens_readText length rest).bind fun _ _ _ => .ok _
          | list _ | map _ => exact .error _
          | bytes _ | extension _ => exact stable_refuse
  | succ inner inductionHypothesis =>
      obtain ⟨more, rfl⟩ := Nat.exists_eq_add_of_lt roomier
      have inside := inductionHypothesis (show inner ≤ inner + more by omega)
      intro bytes
      refine (widens_readHead bytes).bind fun head rest _ => ?_
      cases head with
      | null | bool _ | unsigned _ | signed _ | float _ => exact .ok _
      | text length => exact (widens_readText length rest).bind fun _ _ _ => .ok _
      | list length => exact (widens_readItems inside length rest).bind fun _ _ _ => .ok _
      | map length =>
          exact (widens_readAnyEntries inside inner _ length rest).bind fun _ _ _ => .ok _
      | bytes _ | extension _ => exact stable_refuse

end Values

section Fields

/-- Two field readers differ only in how far they read. -/
inductive FieldReader.Grows : FieldReader → FieldReader → Prop where
  | read {name : String} {defaulted : Bool} {narrow wide : Reader Datum}
    {ofByte : UInt8 → Except Mismatch Datum} (widens : Widens Anything narrow wide) :
    Grows ⟨name, defaulted, narrow, ofByte⟩ ⟨name, defaulted, wide, ofByte⟩

variable {fields fieldsWide : List FieldReader}
  (grows : List.Forall₂ FieldReader.Grows fields fieldsWide)
include grows

theorem widens_readPositional (expected : String) (index count : Nat) :
    Widens Anything (readPositional expected index count fields)
      (readPositional expected index count fieldsWide) := by
  induction grows generalizing index count with
  | nil => exact fun bytes => .ok []
  | @cons field fieldWide fields fieldsWide head _ inductionHypothesis =>
      intro bytes
      obtain ⟨widens⟩ := head
      cases count with
      | zero =>
          refine .ite (fun _ => ?_) fun _ => .error _
          exact (inductionHypothesis (index + 1) 0 bytes).bind fun _ _ _ => .ok _
      | succ count =>
          refine (widens bytes).bind fun value rest _ => ?_
          exact (inductionHypothesis (index + 1) count rest).bind fun _ _ _ => .ok _

theorem widens_readFieldItems (expected : String) (length : Nat) :
    Widens Anything (readFieldItems expected fields length)
      (readFieldItems expected fieldsWide length) := by
  intro bytes
  unfold readFieldItems
  rw [grows.length_eq]
  refine (widens_readPositional grows expected 0 length bytes).bind fun entries rest _ => ?_
  exact .ite (fun _ => .error _) fun _ => .ok _

/-- Single bytes are taken in the same way by both. -/
theorem ofBytes_eq (expected : String) (index : Nat) (bytes : Bytes) :
    ofBytes expected index bytes fields = ofBytes expected index bytes fieldsWide := by
  induction grows generalizing index bytes with
  | nil => rfl
  | @cons field fieldWide fields fieldsWide head _ inductionHypothesis =>
      obtain ⟨_⟩ := head
      cases bytes with
      | nil => simp only [ofBytes, inductionHypothesis]
      | cons byte bytes => simp only [ofBytes, inductionHypothesis]

theorem widens_readFieldBytes (expected : String) (length : Nat) :
    Widens Anything (readFieldBytes expected fields length)
      (readFieldBytes expected fieldsWide length) := by
  intro bytes
  refine (widens_readContent length bytes).bind fun content rest _ => ?_
  dsimp only
  rw [ofBytes_eq grows]
  exact stable_liftMismatch (ofBytes expected 0 content fieldsWide) id

theorem find?_of_grows (key : FieldKey) :
    Option.Rel FieldReader.Grows (key.find? fields) (key.find? fieldsWide) := by
  cases key with
  | name bytes =>
      induction grows with
      | nil => exact .none
      | @cons field fieldWide fields fieldsWide head _ inductionHypothesis =>
          obtain @⟨name, _, _, _, _, widens⟩ := head
          rw [FieldKey.find?] at inductionHypothesis ⊢
          rw [FieldKey.find?, List.find?_cons, List.find?_cons]
          dsimp only
          cases decide (Text.Utf8.encode name = bytes) with
          | true => exact .some (.read widens)
          | false => exact inductionHypothesis
  | index value =>
      induction grows generalizing value with
      | nil => exact .none
      | cons head _ inductionHypothesis =>
          cases value with
          | zero => exact .some head
          | succ value => exact inductionHypothesis value

/-- Entries are collected and skipped alike when there is more room. -/
theorem widens_readNamed {inner outer : Nat} (roomier : inner ≤ outer) (count : Nat)
    (found : List (String × Datum)) :
    Widens Anything (readNamed inner fields count found)
      (readNamed outer fieldsWide count found) := by
  induction count generalizing found with
  | zero => exact fun bytes => .ok found
  | succ count inductionHypothesis =>
      intro bytes
      refine (widens_readFieldKey inner outer bytes).bind fun key rest _ => ?_
      have related := find?_of_grows grows key
      dsimp only
      generalize key.find? fields = field at related
      generalize key.find? fieldsWide = fieldWide at related
      cases related with
      | none =>
          refine (widens_skipValue roomier rest).bind fun _ rest _ => ?_
          exact inductionHypothesis found rest
      | some both =>
          obtain ⟨widens⟩ := both
          refine .ite (fun _ => .error _) fun _ => ?_
          exact (widens rest).bind fun value rest _ => inductionHypothesis _ rest

end Fields

/-- Every value takes at least one byte. -/
theorem readShape_nil_ne_ok {shape : Shape} {depth : Nat} {output : Datum × Bytes} :
    readShape shape depth [] ≠ .ok output := by
  intro same
  match shape with
  | .unit | .bool | .integer _ | .text | .list _ | .dictionary _ | .pair _ _ | .pairTable
  | .record _ _ => cases same
  | .optional content =>
      rw [readShape] at same
      exact readShape_nil_ne_ok same
  | .any => cases depth <;> cases same

mutual

/-- More bytes behind a value of any shape and more room inside leave the value as it was. -/
theorem widens_readShape (shape : Shape) {inner outer : Nat} (roomier : inner ≤ outer) :
    Widens Anything (readShape shape inner) (readShape shape outer) := by
  intro bytes
  match shape with
  | .unit =>
      refine (widens_readHead bytes).bind fun head rest _ => ?_
      cases head with
      | null => exact .ok Datum.null
      | bool _ | unsigned _ | signed _ | float _ | text _ | bytes _ | list _ | map _
      | extension _ => exact stable_refuse
  | .bool =>
      refine (widens_readSimpleHead bytes).bind fun head rest _ => ?_
      cases head with
      | bool value => exact .ok (Datum.bool value)
      | null | unsigned _ | signed _ | float _ | text _ | bytes _ | list _ | map _
      | extension _ => exact stable_refuse
  | .integer type => exact (widens_readInteger type bytes).bind fun _ _ _ => .ok _
  | .text =>
      exact (widens_readTextValue inner outer Shape.text.expected bytes).bind fun _ _ _ => .ok _
  | .optional content =>
      cases bytes with
      | nil => exact .of_stopped fun _ => readShape_nil_ne_ok
      | cons byte bytes =>
          unfold readShape
          refine .ite (fun _ => ?_) fun _ => widens_readShape content roomier (byte :: bytes)
          exact (Stable.ok Datum.null).behind
  | .list item =>
      refine (widens_readHead bytes).bind fun head rest _ => ?_
      cases head with
      | list length =>
          refine stable_enter roomier fun less more still => ?_
          exact (widens_readItems (widens_readShape item still) length rest).bind fun _ _ _ => .ok _
      | bytes length =>
          refine (widens_readContent length rest).bind fun content rest _ => ?_
          exact stable_liftMismatch (content.mapM (ofByte item)) Datum.list
      | null | bool _ | unsigned _ | signed _ | float _ | text _ | map _ | extension _ =>
          exact stable_refuse
  | .dictionary value =>
      refine (widens_readHead bytes).bind fun head rest _ => ?_
      cases head with
      | map length =>
          refine stable_enter roomier fun less more still => ?_
          have keys := widens_readTextValue less more Shape.text.expected
          have values := widens_readShape value still
          exact (widens_readEntries keys values length rest).bind fun _ _ _ => .ok _
      | null | bool _ | unsigned _ | signed _ | float _ | text _ | bytes _ | list _
      | extension _ => exact stable_refuse
  | .pair first second =>
      have grows {less more : Nat} (still : less ≤ more) : List.Forall₂ FieldReader.Grows
          (pairFields first second (readShape first less) (readShape second less))
          (pairFields first second (readShape first more) (readShape second more)) :=
        .cons (.read (widens_readShape first still)) <|
          .cons (.read (widens_readShape second still)) .nil
      refine (widens_readHead bytes).bind fun head rest _ => ?_
      cases head with
      | list length =>
          refine stable_enter roomier fun less more still => ?_
          exact (widens_readFieldItems (grows still) _ length rest).bind fun _ _ _ => .ok _
      | bytes length =>
          exact (widens_readFieldBytes (grows roomier) _ length rest).bind fun _ _ _ => .ok _
      | null | bool _ | unsigned _ | signed _ | float _ | text _ | map _ | extension _ =>
          exact stable_refuse
  | .pairTable =>
      refine (widens_readHead bytes).bind fun head rest _ => ?_
      cases head with
      | map length =>
          refine stable_enter roomier fun less more still => ?_
          have keys := widens_readPairKey still (Shape.pair .unit .unit).expected
          exact (widens_readEntries keys (widens_readInteger .i32) length rest).bind
            fun _ _ _ => .ok _
      | null | bool _ | unsigned _ | signed _ | float _ | text _ | bytes _ | list _
      | extension _ => exact stable_refuse
  | .record name fields =>
      refine (widens_readHead bytes).bind fun head rest _ => ?_
      cases head with
      | list length =>
          refine stable_enter roomier fun less more still => ?_
          exact (widens_readFieldItems (grows_readFields fields still) _ length rest).bind
            fun _ _ _ => .ok _
      | bytes length =>
          exact (widens_readFieldBytes (grows_readFields fields roomier) _ length rest).bind
            fun _ _ _ => .ok _
      | map length =>
          refine stable_enter roomier fun less more still => ?_
          refine (widens_readNamed (grows_readFields fields still) still length [] rest).bind
            fun found rest _ => ?_
          exact stable_liftMismatch (fields.assemble found) Datum.object
      | null | bool _ | unsigned _ | signed _ | float _ | text _ | extension _ =>
          exact stable_refuse
  | .any => exact widens_readAny roomier bytes

theorem grows_readFields (fields : Fields) {inner outer : Nat} (roomier : inner ≤ outer) :
    List.Forall₂ FieldReader.Grows (readFields fields inner) (readFields fields outer) := by
  match fields with
  | .nil => exact .nil
  | .cons name defaulted shape rest =>
      exact .cons (.read (widens_readShape shape roomier)) (grows_readFields rest roomier)

end

end Switchboard.MessagePack
