import PagedFind.Proofs.Store.Bounds
import PagedFind.Regex.Match

namespace PagedFind

namespace Bookmark

theorem encode_injective {m n : Nat} (hm : m ≤ Text.maxWord) (hn : n ≤ Text.maxWord) (h : encode m = encode n) :
    m = n := by
  have hdecode := congrArg decode? h
  rw [decode?_encode hm, decode?_encode hn] at hdecode
  exact Option.some.inj hdecode

end Bookmark

theorem Plan.exhausted_iff [Regex.Engine] {plan : Plan} {p : Position} {page : Page} {m : Option Nat} {n : Nat}
    (hm : ∀ k ∈ m, k ≤ Text.maxWord) (hn : n ≤ Text.maxWord) (hposition : p.bookmark = m.map Bookmark.encode)
    (hpage : page.bookmark = some (Bookmark.encode n)) :
    plan.exhausted p page = true ↔ page.docs.length < plan.pageSize p ∨ m = some n := by
  have hunchanged : some (Bookmark.encode n) = m.map Bookmark.encode ↔ m = some n := by
    constructor
    · intro h
      obtain ⟨k, hk, hencode⟩ := Option.map_eq_some_iff.mp h.symm
      rw [hk, Bookmark.encode_injective (hm k hk) hn hencode]
    · rintro rfl
      rfl
  simp only [exhausted, hposition, hpage, Option.all_some, Bookmark.encode_ne_empty, decide_false, Bool.or_false,
    Bool.or_eq_true, decide_eq_true_eq, hunchanged]

namespace Collection

variable [Regex.Engine] {c : Collection} {request : FindRequest} {pageLimit : Nat} {b : String}

theorem exists_bookmark_of_page {page : Page} (h : c.page pageLimit request = .ok page) :
    ∃ n ≤ Text.maxWord, page.bookmark = some (Bookmark.encode n) := by
  obtain ⟨r, -, hword, hslice⟩ := isSlice_of_page h
  exact ⟨_, (Nat.min_le_left _ _).trans hword, hslice.bookmark⟩

theorem page_of_invalidBookmark (hdecode : Bookmark.decode? b = none) (hne : b ≠ "")
    (hbookmark : request.bookmark = some b) (hsort : c.checkSort request.sort = .ok ()) :
    c.page pageLimit request = .error .invalidBookmark := by
  have hoffset : offset (some b) = .error .invalidBookmark := by simp only [offset, if_neg hne, hdecode]
  simp only [page, hsort, hbookmark, hoffset]

end Collection

namespace Bookmark

open Text.Base64 (Spells)

/-- Bookmarks lead back to every number of rows, so that a find stops at an unchanged bookmark just where the number
is unchanged. The bookmarks are the spellings of the texts that name a number, and anything else is refused. -/
theorem codec_exact [Regex.Engine] :
    (∀ n ≤ Text.maxWord, decode? (encode n) = some n) ∧
    (∀ m ≤ Text.maxWord, ∀ n ≤ Text.maxWord, encode m = encode n → m = n) ∧
    (∀ n, encode n ≠ "") ∧
    (∀ (plan : Plan) (p : Position) (page : Page) (m : Option Nat) (n : Nat), (∀ k ∈ m, k ≤ Text.maxWord) →
      n ≤ Text.maxWord → p.bookmark = m.map encode → page.bookmark = some (encode n) →
      (plan.exhausted p page = true ↔ page.docs.length < plan.pageSize p ∨ m = some n)) ∧
    (∀ (c : Collection) (pageLimit : Nat) (request : FindRequest) (page : Page), c.page pageLimit request = .ok page →
      ∃ n ≤ Text.maxWord, page.bookmark = some (encode n)) ∧
    (∀ b n, decode? b = some n ↔ ∃ text, Names text n ∧ Spells b.toList (text.flatMap Text.utf8)) ∧
    ∀ b, (¬∃ n text, Names text n ∧ Spells b.toList (text.flatMap Text.utf8)) → decode? b = none ∧
      (b ≠ "" → ∀ (c : Collection) (pageLimit : Nat) (request : FindRequest), request.bookmark = some b →
        c.checkSort request.sort = .ok () →
        c.page pageLimit request = .error (.backend 400 "invalid_bookmark" "Invalid bookmark value")) := by
  refine ⟨fun n hn => decode?_encode hn, fun m hm n hn => encode_injective hm hn, encode_ne_empty, ?_, ?_,
    fun b n => decode?_eq_some_iff, ?_⟩
  · intro plan p page m n hm hn hposition hpage
    exact Plan.exhausted_iff hm hn hposition hpage
  · intro c pageLimit request page hpage
    exact Collection.exists_bookmark_of_page hpage
  · intro b hnone
    have hdecode : decode? b = none := by
      rw [Option.eq_none_iff_forall_ne_some]
      intro n hn
      exact hnone ⟨n, decode?_eq_some_iff.mp hn⟩
    exact ⟨hdecode, fun hne c pageLimit request hbookmark hsort =>
      Collection.page_of_invalidBookmark hdecode hne hbookmark hsort⟩

/-- A bookmark with a plus sign and zeros in front leads to forty-two rows as well. One whose last digit has bits of no
byte is refused. -/
theorem codec_exact_forty_two :
    let request : FindRequest := ⟨.object [], none, none, none, some "ZzE6NB", none, false⟩
    (∃ text, Names text 42 ∧ Spells "ZzE6KzAwNDI".toList (text.flatMap Text.utf8)) ∧ encode 42 ≠ "ZzE6KzAwNDI" ∧
      encode 4 = "ZzE6NA" ∧ decode? (encode 4) = some 4 ∧
      Collection.empty.page 10 request = .error (.backend 400 "invalid_bookmark" "Invalid bookmark value") := by
  intro request
  obtain ⟨hread, -, -, -, -, hnamed, hrefused⟩ := codec_exact
  have hsigned : decode? "ZzE6KzAwNDI" = some 42 := by decide +kernel
  have hstray : decode? "ZzE6NB" = none := by decide +kernel
  have hnone : ¬∃ n text, Names text n ∧ Spells "ZzE6NB".toList (text.flatMap Text.utf8) := by
    rintro ⟨n, hn⟩
    cases hstray.symm.trans ((hnamed "ZzE6NB" n).mpr hn)
  exact ⟨(hnamed _ 42).mp hsigned, by decide +kernel, by decide +kernel, hread 4 (by decide +kernel),
    (hrefused "ZzE6NB" hnone).2 (by decide) _ 10 request rfl rfl⟩

end Bookmark

end PagedFind
