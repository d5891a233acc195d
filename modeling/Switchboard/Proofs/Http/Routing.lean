import Switchboard.Http.Router
import Switchboard.Proofs.Key

/-
This file shows which paths name a key behind the prefix of a listener, and that each of them names
one key only.
-/

namespace Switchboard.Http

section Prefix

/-- What is left behind a prefix completes it to the whole text. -/
theorem stripPrefix?_eq_some_iff {start text rest : List Char} :
    stripPrefix? start text = some rest ↔ text = start ++ rest := by
  induction start generalizing text with
  | nil => simp [stripPrefix?]
  | cons first start inductionHypothesis =>
      cases text with
      | nil => simp [stripPrefix?]
      | cons character text =>
          by_cases same : first = character
          · simp [stripPrefix?, same, inductionHypothesis]
          · simp [stripPrefix?, same, Ne.symm same]

theorem stripPrefix?_append (start text : List Char) :
    stripPrefix? start (start ++ text) = some text :=
  stripPrefix?_eq_some_iff.2 rfl

end Prefix

section Keys

variable {σ : Type} {router : Router σ}

/-- Behind the prefix a listener reads a key from what is left of a path. -/
theorem keyFor?_append (text : List Char) :
    router.keyFor? (String.ofList (router.pathPrefix.toList ++ text)) =
      OperationKey.ofPath? (String.ofList text) := by
  rw [Router.keyFor?, String.toList_ofList, stripPrefix?_append]

/-- A listener reads a key from its path behind the prefix, and from no other path. -/
theorem keyFor?_eq_some_iff {path : String} {key : OperationKey} :
    router.keyFor? path = some key ↔ path = router.pathPrefix ++ key.path := by
  constructor
  · intro named
    rw [Router.keyFor?] at named
    split at named
    · cases named
    · next rest stripped =>
        have whole := stripPrefix?_eq_some_iff.1 stripped
        rw [← String.toList_inj, String.toList_append,
          ← OperationKey.eq_path_of_ofPath? named, String.toList_ofList, whole]
  · intro written
    have behind : path = String.ofList (router.pathPrefix.toList ++ key.path.toList) := by
      rw [← String.toList_append, String.ofList_toList, written]
    rw [behind, keyFor?_append, String.ofList_toList, OperationKey.ofPath?_path]

theorem keyFor?_eq_none_iff {path : String} :
    router.keyFor? path = none ↔ ∀ key : OperationKey, path ≠ router.pathPrefix ++ key.path := by
  simp only [Option.eq_none_iff_forall_ne_some, ne_eq, keyFor?_eq_some_iff]

/--
Reading keys from paths is the inverse of writing paths for keys, behind any prefix. A path names
two texts exactly when they are the parts of a key and the path is written for them, and it names
nothing when it is written for no key. Without a prefix a path names the key whose path it is, and
no two keys have the same path.
-/
theorem keyFor?_inverts_path (router : Router σ) :
    (∀ path namespaceName operation,
      (∃ key, router.keyFor? path = some key ∧
        key.namespaceName = namespaceName ∧ key.operation = operation) ↔
      (∃ key, OperationKey.make namespaceName operation = .ok key) ∧
        path = router.pathPrefix ++ "/" ++ namespaceName ++ "/" ++ operation) ∧
    (∀ path, router.keyFor? path = none ↔
      ∀ key : OperationKey, path ≠ router.pathPrefix ++ key.path) ∧
    (∀ path key, OperationKey.ofPath? path = some key ↔ path = key.path) ∧
    (∀ path, OperationKey.ofPath? path = none ↔ ∀ key : OperationKey, path ≠ key.path) ∧
    Function.Injective OperationKey.path := by
  have written (key : OperationKey) : router.pathPrefix ++ key.path =
      router.pathPrefix ++ "/" ++ key.namespaceName ++ "/" ++ key.operation := by
    simp only [OperationKey.path_eq, String.append_assoc]
  refine ⟨?parts, fun _ => keyFor?_eq_none_iff, fun _ _ => OperationKey.ofPath?_eq_some_iff, ?none,
    OperationKey.path_injective⟩
  case parts =>
    intro path namespaceName operation
    constructor
    · rintro ⟨key, named, rfl, rfl⟩
      rw [keyFor?_eq_some_iff, written] at named
      exact ⟨⟨key, OperationKey.make_eq_ok.2 ⟨rfl, rfl⟩⟩, named⟩
    · rintro ⟨⟨key, made⟩, whole⟩
      obtain ⟨rfl, rfl⟩ := OperationKey.make_eq_ok.1 made
      exact ⟨key, keyFor?_eq_some_iff.2 (whole.trans (written key).symm), rfl, rfl⟩
  case none =>
    intro path
    simp only [Option.eq_none_iff_forall_ne_some, ne_eq, OperationKey.ofPath?_eq_some_iff]

/-- Only the last slash separates, so all others belong to the prefix or to the namespace. -/
example : (({ handlers := Handlers.empty, pathPrefix := "/api/" } : Router Unit).keyFor?
    "/api///a//op").map (fun key => (key.namespaceName, key.operation)) = some ("/a/", "op") := by
  decide

end Keys

end Switchboard.Http
