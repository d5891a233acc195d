import Mathlib.Data.List.Infix
import Mathlib.Data.List.TakeWhile
import Switchboard.Proofs.Http.Routing
import Switchboard.Proofs.Text.Utf8
import Switchboard.Proofs.Url.Loopback

/-
This file shows which key a listener reads from the address that a client forms for a key. A key
without marks is read back. A key with one is cut there, and the listener reads another key or none.
-/

namespace Switchboard.Http

section Marks

/-- Of the text of an address, the path is what stands before the first mark. -/
def beforeMark (text : List Char) : List Char :=
  text.takeWhile fun character => !Url.isMark character

theorem beforeMark_eq_self_iff {text : List Char} :
    beforeMark text = text ↔ ∀ character ∈ text, Url.isMark character = false := by
  simp only [beforeMark, List.takeWhile_eq_self_iff, Bool.not_eq_true']

theorem beforeMark_append {start : List Char}
    (free : ∀ character ∈ start, Url.isMark character = false) (text : List Char) :
    beforeMark (start ++ text) = start ++ beforeMark text := by
  refine List.takeWhile_append_of_pos ?_
  intro character member
  rw [free character member, Bool.not_false]

theorem beforeMark_mark (before : List Char) {mark : Char} (isMark : Url.isMark mark)
    (after : List Char) : beforeMark (before ++ mark :: after) = beforeMark before := by
  induction before with
  | nil => simp [beforeMark, isMark]
  | cons character before inductionHypothesis =>
      simp only [beforeMark] at inductionHypothesis ⊢
      rw [List.cons_append, List.takeWhile_cons, List.takeWhile_cons, inductionHypothesis]

/-- No character of an operation's name ends the path of its address. -/
def IsAllPath (namespaceName operation : String) : Prop :=
  ∀ character ∈ namespaceName.toList ++ operation.toList, character ≠ '?' ∧ character ≠ '#'

instance (namespaceName operation : String) : Decidable (IsAllPath namespaceName operation) :=
  List.decidableBAll (fun character => character ≠ '?' ∧ character ≠ '#') _

theorem isMark_eq_false_iff {character : Char} :
    Url.isMark character = false ↔ character ≠ '?' ∧ character ≠ '#' := by
  simp only [Url.isMark, Bool.or_eq_false_iff, decide_eq_false_iff_not, ne_eq]

/-- The slashes of a path are no marks, so only the parts of its key can hold one. -/
theorem beforeMark_path_iff (key : OperationKey) :
    beforeMark key.path.toList = key.path.toList ↔ IsAllPath key.namespaceName key.operation := by
  have slash : Url.isMark '/' = false := by decide
  simp only [beforeMark_eq_self_iff, IsAllPath, ← isMark_eq_false_iff, OperationKey.toList_path,
    List.forall_mem_cons, List.forall_mem_append, slash, true_and]

end Marks

section Reading

variable {authority text : List Char} {uri : Uri}

theorem isPrefix_withoutFragment (text : List Char) : withoutFragment text <+: text :=
  List.takeWhile_prefix _

theorem splitQuery_fst (text : List Char) : (splitQuery text).1 = text.takeWhile (· ≠ '?') := by
  rw [splitQuery]
  cases rest : text.dropWhile (· ≠ '?') with
  | nil =>
      rw [List.dropWhile_eq_nil_iff] at rest
      exact (List.takeWhile_eq_self_iff.2 rest).symm
  | cons mark query => rfl

/-- The path and the query are the whole text, but for the fragment. -/
theorem target_splitQuery (authority text : List Char) :
    Uri.target ⟨authority, (splitQuery text).1, (splitQuery text).2⟩ = text := by
  have whole := List.takeWhile_append_dropWhile (p := (· ≠ '?')) (l := text)
  rw [Uri.target, splitQuery]
  cases rest : text.dropWhile (· ≠ '?') with
  | nil => exact List.append_nil text
  | cons mark query =>
      have isQuestion : mark = '?' := by
        have head := List.head?_dropWhile_not (· ≠ '?') text
        rw [rest] at head
        simpa using head
      rw [rest, isQuestion] at whole
      exact whole

/-- What is read is the text before the fragment, split at its first question mark. -/
theorem eq_of_readPath (read : readPath authority text = .ok uri) :
    uri = ⟨authority, (splitQuery (withoutFragment text)).1,
      (splitQuery (withoutFragment text)).2⟩ := by
  rw [readPath] at read
  simp only at read
  split at read
  · exact (Except.ok.inj read).symm
  · cases read

theorem path_of_readPath (read : readPath authority text = .ok uri) :
    uri.path = beforeMark text := by
  have noMark (character : Char) :
      decide (decide (character ≠ '?') = true ∧ decide (character ≠ '#') = true) =
        !Url.isMark character := by
    simp [Url.isMark]
  rw [eq_of_readPath read]
  simp only [splitQuery_fst, withoutFragment, List.takeWhile_takeWhile, beforeMark, noMark]

theorem target_of_readPath (read : readPath authority text = .ok uri) :
    uri.target = withoutFragment text := by
  rw [eq_of_readPath read, target_splitQuery]

/-- A listener reads the path and the query that the client wrote. -/
theorem readPath_target (read : readPath authority text = .ok uri) :
    readPath [] uri.target = .ok { uri with authority := [] } := by
  have idempotent : withoutFragment (withoutFragment text) = withoutFragment text :=
    List.takeWhile_idem
  rw [target_of_readPath read, eq_of_readPath read]
  rw [readPath] at read ⊢
  rw [idempotent]
  simp only at read ⊢
  split at read
  · next plain =>
      simp only [Bool.and_eq_true] at plain
      rw [if_pos]
      simp only [List.all_nil, plain.1.2, plain.2, Bool.and_self]
  · cases read

end Reading

section Addresses

variable {base : BaseUrl} {key : OperationKey} {namespaceName operation : String} {uri : Uri}

/-- An address is formed for keys only. -/
theorem exists_key_of_ofOperation
    (addressed : Uri.ofOperation base namespaceName operation = .ok uri) :
    ∃ key, OperationKey.make namespaceName operation = .ok key ∧ Uri.ofKey base key = .ok uri := by
  rw [Uri.ofOperation] at addressed
  cases made : OperationKey.make namespaceName operation with
  | error fault =>
      rw [made] at addressed
      cases addressed
  | ok key =>
      rw [made] at addressed
      cases formed : Uri.ofKey base key with
      | error fault =>
          simp only [formed] at addressed
          cases addressed
      | ok found =>
          simp only [formed, Except.ok.injEq] at addressed
          exact ⟨key, rfl, addressed ▸ formed⟩

/-- Whatever stands in the way of an address, the key is refused as a key. -/
theorem exists_invalidKey_of_ofOperation {error : Error}
    (refused : Uri.ofOperation base namespaceName operation = .error error) :
    ∃ message, error = .invalidKey message := by
  rw [Uri.ofOperation] at refused
  split at refused
  · rw [Except.error.injEq] at refused
    exact ⟨_, refused.symm⟩
  · split at refused
    · cases refused
    · rw [Except.error.injEq] at refused
      exact ⟨_, refused.symm⟩

theorem ofKey_eq_ok (formed : Uri.ofKey base key = .ok uri) :
    (Text.Utf8.encode (base.text ++ key.path)).length ≤ maximalUriLength ∧
      readPath base.authority (base.path ++ key.path.toList) = .ok uri := by
  rw [Uri.ofKey] at formed
  split at formed
  · cases formed
  · next fits => exact ⟨Nat.le_of_not_lt fits, formed⟩

theorem path_of_ofKey (formed : Uri.ofKey base key = .ok uri) :
    uri.path = beforeMark (base.path ++ key.path.toList) :=
  path_of_readPath (ofKey_eq_ok formed).2

theorem path_suffix_text (base : BaseUrl) : base.path <:+ base.text.toList := by
  have text : base.text.toList = "http://".toList ++ base.authority ++ base.path :=
    String.toList_ofList
  exact ⟨_, text.symm⟩

theorem length_path_le_text (base : BaseUrl) (key : OperationKey) :
    (Text.Utf8.encodeChars (base.path ++ key.path.toList)).length ≤
      (Text.Utf8.encode (base.text ++ key.path)).length := by
  have shorter := ((path_suffix_text base).flatMap Text.Utf8.encodeChar).length_le
  rw [Text.Utf8.length_encode_append, Text.Utf8.encodeChars_append, List.length_append]
  exact Nat.add_le_add_right shorter _

/-- A request line is no longer than the address that it is taken from. -/
theorem length_target_le (formed : Uri.ofKey base key = .ok uri) :
    (Text.Utf8.encodeChars uri.target).length ≤ maximalUriLength := by
  obtain ⟨fits, read⟩ := ofKey_eq_ok formed
  have shorter := ((isPrefix_withoutFragment (base.path ++ key.path.toList)).flatMap
    Text.Utf8.encodeChar).length_le
  rw [target_of_readPath read]
  exact shorter.trans ((length_path_le_text base key).trans fits)

theorem exists_slash_path (base : BaseUrl) (key : OperationKey) :
    ∃ rest, base.path ++ key.path.toList = '/' :: rest := by
  rw [OperationKey.toList_path, BaseUrl.path]
  cases base.segments with
  | nil => exact ⟨_, rfl⟩
  | cons segment segments => exact ⟨_, rfl⟩

/-- A listener reads the path of an address from its request line. -/
theorem readTarget_target (formed : Uri.ofKey base key = .ok uri) :
    readTarget uri.target = some { uri with authority := [] } := by
  have read := (ofKey_eq_ok formed).2
  obtain ⟨rest, startsWithSlash⟩ := exists_slash_path base key
  have target : uri.target = '/' :: withoutFragment rest := by
    rw [target_of_readPath read, startsWithSlash]
    rfl
  have fits := length_target_le formed
  have again := readPath_target read
  rw [target] at fits again ⊢
  unfold readTarget
  rw [if_neg (Nat.not_lt_of_le fits)]
  simp only [again]
  rfl

end Addresses

section Keys

variable {σ : Type} {router : Router σ}

/-- Of two parts that a slash joins, the second one is the operation. -/
theorem ofPath?_join (namespaceName : String) {operation : List Char} (noSlash : '/' ∉ operation) :
    OperationKey.ofPath? (String.ofList ('/' :: (namespaceName.toList ++ '/' :: operation))) =
      OperationKey.make? namespaceName (String.ofList operation) := by
  rw [OperationKey.ofPath?, String.toList_ofList]
  simp only [splitAtLastSlash_append _ noSlash, String.ofList_toList]

/-- A listener reads from the address of a key what stands before the first mark of the key. -/
structure ReadsBeforeMark (router : Router σ) (base : BaseUrl) (key : OperationKey) (uri : Uri) :
    Prop where
  onTheWire : readTarget uri.target = some { uri with authority := [] }
  path : uri.path = base.path ++ beforeMark key.path.toList
  wholePath : uri.path = base.path ++ key.path.toList ↔
    IsAllPath key.namespaceName key.operation
  sameKey : router.keyFor? (String.ofList uri.path) = some key ↔
    IsAllPath key.namespaceName key.operation
  cutOperation : ∀ before mark after, key.operation.toList = before ++ mark :: after →
    Url.isMark mark → IsAllPath key.namespaceName (String.ofList before) →
    router.keyFor? (String.ofList uri.path) =
      OperationKey.make? key.namespaceName (String.ofList before)

theorem readsBeforeMark_of_ofKey {base : BaseUrl} {key : OperationKey} {uri : Uri}
    (free : ∀ character ∈ base.path, Url.isMark character = false)
    (served : router.pathPrefix = String.ofList base.path) (formed : Uri.ofKey base key = .ok uri) :
    ReadsBeforeMark router base key uri := by
  have path : uri.path = base.path ++ beforeMark key.path.toList := by
    rw [path_of_ofKey formed, beforeMark_append free]
  have read : router.keyFor? (String.ofList uri.path) =
      OperationKey.ofPath? (String.ofList (beforeMark key.path.toList)) := by
    have start : base.path = router.pathPrefix.toList := by
      rw [served, String.toList_ofList]
    rw [path, start, keyFor?_append]
  refine ⟨readTarget_target formed, path, ?wholePath, ?sameKey, ?cutOperation⟩
  case wholePath => rw [path, List.append_cancel_left_eq, beforeMark_path_iff]
  case sameKey =>
    rw [read, ← beforeMark_path_iff]
    constructor
    · intro named
      have whole := congrArg String.toList (OperationKey.eq_path_of_ofPath? named)
      rwa [String.toList_ofList] at whole
    · intro whole
      rw [whole, String.ofList_toList, OperationKey.ofPath?_path]
  case cutOperation =>
    intro before mark after split isMark allPath
    have noSlash : '/' ∉ before := by
      intro member
      exact key.operationNoSlash (split ▸ List.mem_append_left _ member)
    have joined : key.path.toList =
        ('/' :: (key.namespaceName.toList ++ '/' :: before)) ++ mark :: after := by
      rw [OperationKey.toList_path, split, List.cons_append, List.append_assoc, List.cons_append]
    have kept : beforeMark ('/' :: (key.namespaceName.toList ++ '/' :: before)) =
        '/' :: (key.namespaceName.toList ++ '/' :: before) := by
      have slash : Url.isMark '/' = false := by decide
      simp only [IsAllPath, String.toList_ofList, ← isMark_eq_false_iff, List.forall_mem_append]
        at allPath
      simp only [beforeMark_eq_self_iff, List.forall_mem_cons, List.forall_mem_append, slash,
        true_and]
      exact allPath
    rw [read, joined, beforeMark_mark _ isMark, kept, ofPath?_join _ noSlash]

/--
A listener under the path of a base address reads a key from its address exactly when the key holds
no mark. When the operation holds one, the request is sent to the operation that the text before the
mark names. Whatever is refused is refused as a key.
-/
theorem ofOperation_reads_before_mark {raw : String} {base : BaseUrl}
    (resolved : BaseUrl.resolve raw = .ok base) {namespaceName operation : String}
    {key : OperationKey} (accepted : OperationKey.make namespaceName operation = .ok key)
    (served : router.pathPrefix = String.ofList base.path) :
    (∀ error, Uri.ofOperation base namespaceName operation = .error error →
      ∃ message, error = .invalidKey message) ∧
    ∀ uri, Uri.ofOperation base namespaceName operation = .ok uri →
      ReadsBeforeMark router base key uri := by
  refine ⟨fun error refused => exists_invalidKey_of_ofOperation refused, ?_⟩
  intro uri addressed
  obtain ⟨found, made, formed⟩ := exists_key_of_ofOperation addressed
  have same : found = key := Except.ok.inj (made.symm.trans accepted)
  rw [same] at formed
  exact readsBeforeMark_of_ofKey (fun _ member => BaseUrl.isMark_of_mem_path resolved member) served
    formed

/-- This base address leads to a listener on the same host. -/
def outboundBase : BaseUrl :=
  ⟨.ipv4 ⟨127, 0, 0, 1⟩, 9000, [['o', 'u', 't', 'b', 'o', 'u', 'n', 'd']]⟩

def outboundRouter : Router Unit := { handlers := Handlers.empty, pathPrefix := "/outbound" }

theorem resolve_outbound : BaseUrl.resolve "http://127.0.0.1:9000/outbound" = .ok outboundBase := by
  have plain : BaseUrl.IsPlainPrefix outboundBase.segments := by decide
  have written : BaseUrl.loopbackText 9000 outboundBase.segments 0 =
      "http://127.0.0.1:9000/outbound" := rfl
  rw [← written]
  exact BaseUrl.resolve_loopbackText plain 0 9000

theorem ofOperation_reads_before_mark_saveCustomer :
    ∃ key uri, OperationKey.make "customers.v1.Outbound" "saveCustomer" = .ok key ∧
      Uri.ofOperation outboundBase "customers.v1.Outbound" "saveCustomer" = .ok uri ∧
      uri.path = "/outbound/customers.v1.Outbound/saveCustomer".toList ∧
      outboundRouter.keyFor? (String.ofList uri.path) = some key := by
  have accepted : OperationKey.make "customers.v1.Outbound" "saveCustomer" =
      .ok ⟨"customers.v1.Outbound", "saveCustomer", by decide, by decide, by decide⟩ := rfl
  have served : outboundRouter.pathPrefix = String.ofList outboundBase.path := rfl
  have addressed : Uri.ofOperation outboundBase "customers.v1.Outbound" "saveCustomer" =
      .ok ⟨"127.0.0.1:9000".toList, "/outbound/customers.v1.Outbound/saveCustomer".toList, none⟩ :=
    rfl
  have reads := (ofOperation_reads_before_mark resolve_outbound accepted served).2 _ addressed
  exact ⟨_, _, accepted, addressed, rfl, reads.sameKey.2 (by decide)⟩

/-- A question mark in an operation sends its request to the operation before the question mark. -/
theorem question_mark_names_other_key :
    BaseUrl.resolve "http://127.0.0.1:9000/outbound" = .ok outboundBase ∧
      ∃ key other uri, OperationKey.make "ns" "op?x" = .ok key ∧
        OperationKey.make "ns" "op" = .ok other ∧ key ≠ other ∧
        Uri.ofOperation outboundBase "ns" "op?x" = .ok uri ∧
        uri.path ≠ outboundBase.path ++ key.path.toList ∧
        outboundRouter.keyFor? (String.ofList uri.path) = some other := by
  refine ⟨resolve_outbound, ⟨"ns", "op?x", by decide, by decide, by decide⟩,
    ⟨"ns", "op", by decide, by decide, by decide⟩,
    ⟨"127.0.0.1:9000".toList, "/outbound/ns/op".toList, some ['x']⟩, ?_⟩
  exact ⟨rfl, rfl, by decide, rfl, by decide, rfl⟩

end Keys

end Switchboard.Http
