import PortShare.Plan
import PortShare.Proofs.Json.Whole
import PortShare.Proofs.Wire

/-! Of a listing that has been cut off, or that something has got behind, nothing is read. So what
is looked for in a listing is found in what the service has, and is missed only where it has
none. -/

namespace PortShare

theorem AccessLevel.local_reader : AccessLevel.reader.Local := Json.Reader.local_text.refine _

theorem DevUrl.local_shape : DevUrl.shape.Local := by
  simp only [Json.Shape.Local, shape, List.forall_mem_cons, List.not_mem_nil, false_implies,
    implies_true, and_true]
  exact ⟨Json.Reader.local_text.map _, Json.Reader.local_text.map _,
    Json.Reader.local_unsigned16.map _, Json.Reader.local_optionalText.map _,
    AccessLevel.local_reader.map _⟩

theorem Environment.local_shape : Environment.shape.Local := by
  simp only [Json.Shape.Local, shape, List.forall_mem_cons, List.not_mem_nil, false_implies,
    implies_true, and_true]
  exact ⟨Json.Reader.local_text.map _, Json.Reader.local_text.map _⟩

/-- Listings are read whole. Whatever is cut off a listing of devurls or added to it, what is read
from the rest, if anything is, has the same first devurl on each port. -/
theorem listings_read_whole :
    (∀ bs urls, readDevUrls bs = .ok urls →
      Json.Reader.Entire readDevUrls bs urls ∧
      ∀ body, body <+: bs ∨ bs <+: body → ∀ urls', readDevUrls body = .ok urls' →
        ∀ port, firstOn port urls' = firstOn port urls) ∧
    ∀ bs envs, readEnvironments bs = .ok envs →
      Json.Reader.Entire readEnvironments bs envs := by
  refine ⟨fun bs urls h => ⟨?_, fun body hb urls' h' port => ?_⟩, fun bs envs h => ?_⟩
  · exact DevUrl.local_shape.reader.entire h
  · rw [DevUrl.local_shape.reader.readAll_unique h hb h']
  · exact Environment.local_shape.reader.entire h

/-- A listing of two devurls is read, and the same bytes twice over are refused. -/
theorem listing_refused_twice_over :
    let urls : List DevUrl :=
      [⟨"a", "", 80, none, .organization⟩, ⟨"b", "", 443, some "web", .owner⟩]
    let bs := Utf8.bytes (Json.Value.list (urls.map DevUrl.toJson)).render
    readDevUrls bs = .ok urls ∧ ∀ urls', readDevUrls (bs ++ bs) ≠ .ok urls' := by
  intro urls bs
  have hread : readDevUrls bs = .ok urls :=
    readDevUrls_of_writes (writesDevUrls_render urls) (by decide)
  have he := (listings_read_whole.1 bs urls hread).1
  refine ⟨hread, fun urls' h => ?_⟩
  obtain ⟨front, blank, hbs, -, -⟩ := he.cut
  have hblank : Json.Blank bs := ((he.longer bs urls').mp h).1
  exact absurd (hblank 93 (by rw [hbs]; simp)) (by decide)

end PortShare
