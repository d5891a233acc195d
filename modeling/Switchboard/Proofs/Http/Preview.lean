import Switchboard.Proofs.Http.Transport
import Switchboard.Proofs.Text.Cut

/-
This file says what a client makes of an answer: a success is its body, and a refusal is reported
with the start of its body.
-/

namespace Switchboard.Http

/--
The preview of a body has at most as many characters as the limit has bytes. A text within the limit
is shown whole. Of a longer one the longest start within the limit is shown, and one replacement
character stands for a character that the limit breaks.
-/
structure IsPreview (body : Bytes) (shown : String) : Prop where
  short : shown.length ≤ 256
  whole : ∀ text, Text.Utf8.encode text = body → body.length ≤ 256 → shown = text
  cut : ∀ text, Text.Utf8.encode text = body → 256 < body.length →
    ∃ start, Text.Utf8.IsLongestStart text 256 start ∧
      (Text.Utf8.IsBoundary text 256 → shown = start) ∧
      (¬ Text.Utf8.IsBoundary text 256 → shown = start ++ "\uFFFD")

/-- Every character of a preview was read from a byte of its own at least. -/
theorem length_preview_le (body : Bytes) : (preview body).length ≤ 256 := by
  rw [preview, Text.Utf8.decodeLenient, String.length_ofList, List.length_map]
  exact (Text.Utf8.length_pieces_le _).trans (List.length_take_le previewLimit body)

theorem isPreview_preview (body : Bytes) : IsPreview body (preview body) := by
  refine ⟨length_preview_le body, ?_, ?_⟩
  · rintro text rfl small
    exact preview_encode small
  · rintro text rfl large
    exact Text.Utf8.exists_decodeLenient_take large

theorem preview_eq_of_take {body other : Bytes} (same : body.take 256 = other.take 256) :
    preview body = preview other := by
  rw [preview, preview, previewLimit, same]

/-- The status of an answer decides between its body and a report of it. -/
theorem readResponse_eq (response : Response) :
    (Client.readResponse response).mapError Error.transport =
      if 200 ≤ response.statusCode ∧ response.statusCode ≤ 299 then .ok response.body
      else .error (.transport (.status response.statusCode (preview response.body))) := by
  rw [Client.readResponse]
  by_cases success : 200 ≤ response.statusCode ∧ response.statusCode ≤ 299
  · have below : 200 ≤ response.statusCode ∧ response.statusCode < 300 := by omega
    rw [if_pos success, if_pos below]
    rfl
  · have above : ¬ (200 ≤ response.statusCode ∧ response.statusCode < 300) := by omega
    rw [if_neg success, if_neg above]
    rfl

/--
An answer with a status of success is its body. Every other answer is reported with its status and
the preview of its body, and of a body only the first 256 bytes count for that.
-/
theorem answer_previewed {σ : Type} {client : Client} {network : Network σ}
    {namespaceName operation : String} {uri : Uri} {payload : Bytes} {state after : σ}
    {response : Response}
    (addressed : Uri.ofOperation client.base namespaceName operation = .ok uri)
    (delivered : network ⟨uri, client.contentType, payload⟩ state =
      (.returned (.answered response), after)) :
    client.transport network namespaceName operation payload state =
        (.returned (if 200 ≤ response.statusCode ∧ response.statusCode ≤ 299 then
            .ok response.body
          else .error (.transport (.status response.statusCode (preview response.body)))), after) ∧
      (∀ body other : Bytes, body.take 256 = other.take 256 → preview body = preview other) ∧
      ∀ body, IsPreview body (preview body) := by
  refine ⟨?_, fun _ _ => preview_eq_of_take, isPreview_preview⟩
  rw [transport_of_answered addressed delivered, readResponse_eq]

/-- The second byte of the last but one of these characters is the first one past the limit. -/
def brokenText : String := String.ofList (List.replicate 255 'a' ++ ['é', 'a'])

def brokenResponse : Response := .plain 500 brokenText

/-- Whatever is sent is refused with a long text. -/
def refusingNetwork : Network Nat := fun _ count =>
  (.returned (.answered brokenResponse), count + 1)

def loopbackClient : Client := { base := ⟨.ipv4 ⟨127, 0, 0, 1⟩, 9000, []⟩ }

theorem preview_brokenText : preview (Text.Utf8.encode brokenText) =
    String.ofList (List.replicate 255 'a' ++ [Text.Utf8.replacement]) := by
  have whole : brokenText.toList = List.replicate 255 'a' ++ 'é' :: ['a'] := String.toList_ofList
  have kept : (Text.Utf8.encodeChars (List.replicate 255 'a')).length = 255 := by decide +kernel
  have next : (Text.Utf8.encodeChar 'é').length = 2 := by decide
  rw [preview, previewLimit, Text.Utf8.decodeLenient_of_cut whole (by omega) (by omega), kept,
    if_neg (by decide)]

/-- A character of two bytes is broken after 255 other ones, and the report tells so. -/
theorem answer_previewed_broken :
    loopbackClient.transport refusingNetwork "greeter" "greet" [1, 2] 0 =
      (.returned (.error (.transport (.status 500
        (String.ofList (List.replicate 255 'a' ++ [Text.Utf8.replacement]))))), 1) := by
  have answered := @answer_previewed Nat loopbackClient refusingNetwork "greeter" "greet" _ [1, 2]
    0 1 brokenResponse rfl rfl
  have body : brokenResponse.body = Text.Utf8.encode brokenText := by
    rw [brokenResponse, Response.plain]
  have refused : ¬ (200 ≤ brokenResponse.statusCode ∧ brokenResponse.statusCode ≤ 299) := by decide
  rw [answered.1, if_neg refused, body, preview_brokenText]
  rfl

end Switchboard.Http
