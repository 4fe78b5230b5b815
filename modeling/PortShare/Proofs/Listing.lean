import PortShare.Proofs.Json.Layout
import PortShare.Proofs.Wire
import PortShare.Report

/-! A list that is printed as JSON is read back. The one thing that is lost is the difference
between an empty name and none, and nothing that is printed shows it. -/

namespace PortShare

/-- The devurl as it is read back: an empty name is none. -/
def DevUrl.normal (u : DevUrl) : DevUrl := if u.name = some "" then { u with name := none } else u

namespace DevUrl

theorem normal_of_ne {u : DevUrl} (h : u.name ≠ some "") : u.normal = u := if_neg h

theorem name_normal_ne (u : DevUrl) : u.normal.name ≠ some "" := by
  unfold normal
  split
  · exact nofun
  · assumption

theorem normal_eq_self_iff {u : DevUrl} : u.normal = u ↔ u.name ≠ some "" := by
  refine ⟨fun h => ?_, normal_of_ne⟩
  rw [← h]
  exact u.name_normal_ne

theorem toJson_normal (u : DevUrl) : u.normal.toJson = u.toJson := by
  unfold normal
  split
  · next h => simp only [toJson, h, Option.getD_none, Option.getD_some]
  · rfl

theorem map_toJson_normal (urls : List DevUrl) :
    (urls.map normal).map toJson = urls.map toJson := by
  rw [List.map_map]
  exact List.map_congr_left fun u _ => u.toJson_normal

theorem map_normal_eq_self_iff {urls : List DevUrl} :
    urls.map normal = urls ↔ ∀ u ∈ urls, u.name ≠ some "" := by
  induction urls with
  | nil => simp
  | cons u urls ih =>
    rw [List.map_cons, List.cons.injEq, normal_eq_self_iff, List.forall_mem_cons, ih]

end DevUrl

/-- A list printed as JSON is a JSON list of the devurls. -/
theorem writesDevUrls_json (urls : List DevUrl) :
    WritesDevUrls urls (Utf8.bytes (Report.json urls)) := by
  obtain ⟨ts, hw, hs⟩ := DevUrl.exists_says urls
  exact ⟨ts, hw, Json.Value.Says.document_pretty (.list hs)⟩

theorem Report.json_normal (urls : List DevUrl) : json (urls.map DevUrl.normal) = json urls := by
  rw [json, DevUrl.map_toJson_normal]
  rfl

/-- Whatever its texts hold, a list printed as JSON is read back as it was, but for empty names, and
is then printed as before. -/
theorem Report.json_read_back (urls : List DevUrl) :
    readDevUrls (Utf8.bytes (json urls)) = .ok (urls.map DevUrl.normal) ∧
    (urls.map DevUrl.normal = urls ↔ ∀ u ∈ urls, u.name ≠ some "") ∧
    json (urls.map DevUrl.normal) = json urls := by
  refine ⟨?_, DevUrl.map_normal_eq_self_iff, json_normal urls⟩
  rw [← json_normal]
  refine readDevUrls_of_writes (writesDevUrls_json _) ?_
  intro u hu
  obtain ⟨w, -, rfl⟩ := List.mem_map.mp hu
  exact w.name_normal_ne

end PortShare
