import LoadBench.Proofs.Url
import LoadBench.Run.Worker

namespace LoadBench

open Http

namespace RunConfig

theorem url_collections (c : RunConfig) (rest : String) :
    c.url ("/collections/" ++ c.collection ++ rest) =
      String.ofList (Url.trimEnd c.baseUrl.toList ++
        "/collections/".toList ++ c.collection.toList ++ rest.toList) := by
  have starts : ("/collections/" ++ c.collection ++ rest).toList =
      '/' :: 'c' :: ("ollections/".toList ++ c.collection.toList ++ rest.toList) := by
    simp only [String.toList_append]
    rfl
  rw [url, Url.join_eq c.baseUrl starts (by decide)]
  apply String.toList_injective
  simp only [Url.root, String.toList_append, String.toList_ofList, List.append_assoc]

theorem endsWith_ofList (text : List Char) (tail : String) :
    (String.ofList text).endsWith tail = true ↔ tail.toList <:+ text := by
  rw [String.endsWith_eq_endsWith_toSlice, String.Slice.endsWith_string_iff, String.copy_toSlice,
    String.toList_ofList]

theorem endsWith_ofList_append (front : List Char) (tail : String) :
    (String.ofList (front ++ tail.toList)).endsWith tail = true :=
  (endsWith_ofList _ tail).mpr (List.suffix_append front tail.toList)

theorem not_endsWith_ofList_append (front : List Char) {tail other : String}
    (apart : ¬tail.toList <:+ other.toList ∧ ¬other.toList <:+ tail.toList) :
    ¬(String.ofList (front ++ tail.toList)).endsWith other = true := by
  rw [endsWith_ofList]
  intro ends
  rcases List.suffix_or_suffix_of_suffix (List.suffix_append front tail.toList) ends with one | two
  · exact apart.1 one
  · exact apart.2 two

theorem searchUrl_ne_insertUrl (c : RunConfig) : c.searchUrl ≠ c.insertUrl := by
  rw [searchUrl, insertUrl, url_collections, url_collections]
  intro same
  have ends := List.append_cancel_left (String.ofList_injective same)
  exact absurd ends (by decide)

theorem operationUrl_injective (c : RunConfig) {a b : OperationKind}
    (h : c.operationUrl a = c.operationUrl b) : a = b := by
  have differ := c.searchUrl_ne_insertUrl
  cases a <;> cases b
  · rfl
  · exact absurd h differ
  · exact absurd h.symm differ
  · rfl

end RunConfig

def OperationKind.route : OperationKind → Route
  | .search => .search
  | .insert => .insert

open RunConfig in
theorem Route.of_operation (c : RunConfig) (kind : OperationKind) (body : Json)
    (timeout : Duration) : Route.of (.post (c.operationUrl kind) body timeout) = kind.route := by
  cases kind with
  | search =>
    simp only [operationUrl, searchUrl, url_collections, Route.of, Request.post]
    rw [if_neg (not_endsWith_ofList_append _ (by decide)), if_pos (endsWith_ofList_append _ _)]
    rfl
  | insert =>
    simp only [operationUrl, insertUrl, url_collections, Route.of, Request.post]
    rw [if_neg (not_endsWith_ofList_append _ (by decide)),
      if_neg (not_endsWith_ofList_append _ (by decide)), if_pos (endsWith_ofList_append _ _)]
    rfl

def Call.Proper (c : RunConfig) (call : Call) : Prop :=
  ∃ body, call.request = .post (c.operationUrl call.kind) body c.requestTimeout

namespace Worker

theorem next_proper (w : Worker) : w.next.1.Proper w.config := ⟨_, rfl⟩

theorem route_next (w : Worker) : Route.of w.next.1.request = w.next.1.kind.route := by
  obtain ⟨body, same⟩ := w.next_proper
  rw [same, Route.of_operation]

end Worker

end LoadBench
