import Switchboard.Proofs.Http.Transport

/-
This file compares the two transports call by call, for a client that was given the address of the
listener.
-/

namespace Switchboard.Http

variable {σ : Type}

/-- A visible character of ASCII may stand in a key, unless it ends the path of an address. -/
def isKeyChar (character : Char) : Bool :=
  0x21 ≤ character.toNat && character.toNat ≤ 0x7E && character ≠ '?' && character ≠ '#'

theorem isAllPath_of_isKeyChar {namespaceName operation : String}
    (visible : ∀ character ∈ namespaceName.toList ++ operation.toList, isKeyChar character) :
    IsAllPath namespaceName operation := by
  intro character member
  have isKey := visible character member
  simp only [isKeyChar, Bool.and_eq_true, decide_eq_true_eq] at isKey
  exact ⟨isKey.1.2, isKey.2⟩

/--
A call ends alike in the same process and over HTTP when both reach a handler that comes to an end.
Only the words of a failure differ, and the state is left as the handler leaves it.
-/
structure CallAgrees (router : Router σ) (client : Client) (namespaceName operation : String)
    (payload : Bytes) (state : σ) : Prop where
  replied : ∀ handler reply after,
    router.handlers.lookup namespaceName operation = some handler →
    handler payload state = (.returned (.ok reply), after) →
    Transport.localTo router.handlers namespaceName operation payload state =
        (.returned (.ok reply), after) ∧
      client.transport (Network.to router) namespaceName operation payload state =
        (.returned (.ok reply), after)
  failed : ∀ handler error after,
    router.handlers.lookup namespaceName operation = some handler →
    handler payload state = (.returned (.error error), after) →
    Transport.localTo router.handlers namespaceName operation payload state =
        (.returned (.error error), after) ∧
      client.transport (Network.to router) namespaceName operation payload state =
        (.returned (.error (.transport
          (.status 500 (preview (Text.Utf8.encode error.message))))), after)
  panicked : ∀ handler after,
    router.handlers.lookup namespaceName operation = some handler →
    handler payload state = (.panicked, after) →
    Transport.localTo router.handlers namespaceName operation payload state = (.panicked, after) ∧
      client.transport (Network.to router) namespaceName operation payload state =
        (.returned (.error (.transport (.status 500 "Handler panicked"))), after)
  unrouted :
    router.handlers.lookup namespaceName operation = none →
    Transport.localTo router.handlers namespaceName operation payload state =
        (.returned (.error (.routing namespaceName operation)), state) ∧
      client.transport (Network.to router) namespaceName operation payload state =
        (.returned (.error (.transport (.status 404 "Not Found"))), state)

theorem localTo_of_handler {handlers : Handlers σ} {namespaceName operation : String}
    {handler : Handler σ} (found : handlers.lookup namespaceName operation = some handler)
    (payload : Bytes) :
    Transport.localTo handlers namespaceName operation payload = handler payload := by
  rw [Transport.localTo, found]

theorem callAgrees_of_reaches {router : Router σ} {client : Client}
    {namespaceName operation : String} {uri : Uri} (reaches : Reaches client router)
    (allPath : IsAllPath namespaceName operation)
    (addressed : Uri.ofOperation client.base namespaceName operation = .ok uri) {payload : Bytes}
    (fits : payload.length ≤ router.maxBodySize) (state : σ) :
    CallAgrees router client namespaceName operation payload state := by
  refine ⟨?_, ?_, ?_, ?_⟩
  · intro handler reply after found ran
    rw [localTo_of_handler found]
    exact ⟨ran, transport_of_handler reaches allPath addressed found fits ran nofun⟩
  · intro handler error after found ran
    rw [localTo_of_handler found]
    exact ⟨ran, transport_of_handler reaches allPath addressed found fits ran nofun⟩
  · intro handler after found ran
    rw [localTo_of_handler found]
    exact ⟨ran, transport_of_handler reaches allPath addressed found fits ran nofun⟩
  · intro missing
    refine ⟨?_, transport_of_none reaches allPath addressed missing payload state⟩
    rw [Transport.localTo, missing]
    rfl

/-- The address of a listener on the same host reaches that listener, with all its slashes. -/
theorem reaches_of_loopbackText {router : Router σ} {segments : List (List Char)}
    (plain : BaseUrl.IsPlainPrefix segments)
    (served : router.pathPrefix = String.ofList (BaseUrl.prefixChars segments))
    {port : UInt16} {slashes : Nat} {options : ClientOptions}
    (address : options.baseUrl = some (BaseUrl.loopbackText port segments slashes)) :
    ∃ client, options.build = .ok client ∧ Reaches client router := by
  have noMark (mark : Char) (special : BaseUrl.isPrefixChar mark = false) (notSlash : mark ≠ '/') :
      mark ∉ BaseUrl.prefixChars segments := by
    intro member
    rcases BaseUrl.mem_prefixChars plain member with isPlain | isSlash
    · exact BaseUrl.ne_of_isPrefixChar isPlain special rfl
    · exact notSlash isSlash
  refine ⟨⟨⟨.ipv4 ⟨127, 0, 0, 1⟩, port, segments⟩, options.contentType, options.timeout,
    options.connectTimeout⟩, ?_, ?_, ?_, ?_⟩
  · rw [ClientOptions.build, address]
    simp only [BaseUrl.resolve_loopbackText plain]
  · rw [served, String.toList_ofList]
    rfl
  · exact noMark '?' (by decide) (by decide)
  · exact noMark '#' (by decide) (by decide)

/-- A client that was given the address of a listener calls like a caller in the same process. -/
theorem transports_agree {router : Router σ} {segments : List (List Char)}
    (plain : BaseUrl.IsPlainPrefix segments)
    (served : router.pathPrefix = String.ofList (BaseUrl.prefixChars segments))
    {port : UInt16} {slashes : Nat} {options : ClientOptions}
    (address : options.baseUrl = some (BaseUrl.loopbackText port segments slashes)) :
    ∃ client, options.build = .ok client ∧ ∀ namespaceName operation uri,
      (∀ character ∈ namespaceName.toList ++ operation.toList, isKeyChar character) →
      Uri.ofOperation client.base namespaceName operation = .ok uri →
      ∀ payload, payload.length ≤ router.maxBodySize →
      ∀ state, CallAgrees router client namespaceName operation payload state := by
  obtain ⟨client, built, reaches⟩ := reaches_of_loopbackText plain served address
  refine ⟨client, built, ?_⟩
  intro namespaceName operation uri visible addressed payload fits state
  exact callAgrees_of_reaches reaches (isAllPath_of_isKeyChar visible) addressed fits state

/-- This listener counts its calls and answers with what it was sent. -/
def countingRouter : Router Nat :=
  { handlers := Handlers.empty.bind
      ⟨"greeter", "greet", by decide, by decide, by decide⟩
      fun payload count => (.returned (.ok payload), count + 1)
    pathPrefix := "/api" }

/-- Two slashes follow the prefix in the address of its client. -/
def countingOptions : ClientOptions :=
  { baseUrl := some (BaseUrl.loopbackText 9000 [['a', 'p', 'i']] 2) }

theorem transports_agree_counting :
    ∃ client, countingOptions.build = .ok client ∧
      client.transport (Network.to countingRouter) "greeter" "greet" [1, 2] 0 =
        (.returned (.ok [1, 2]), 1) := by
  have plain : BaseUrl.IsPlainPrefix [['a', 'p', 'i']] := by decide
  have served : countingRouter.pathPrefix = String.ofList (BaseUrl.prefixChars [['a', 'p', 'i']]) :=
    rfl
  have address : countingOptions.baseUrl = some (BaseUrl.loopbackText 9000 [['a', 'p', 'i']] 2) :=
    rfl
  obtain ⟨client, built, agree⟩ := transports_agree plain served address
  refine ⟨client, built, ?_⟩
  rw [ClientOptions.build, address] at built
  simp only [BaseUrl.resolve_loopbackText plain, Except.ok.injEq] at built
  rw [← built] at agree ⊢
  have both := agree "greeter" "greet" _ (List.all_eq_true.1 (by decide)) rfl [1, 2] (by decide) 0
  exact (both.replied _ [1, 2] 1 rfl rfl).2

end Switchboard.Http
