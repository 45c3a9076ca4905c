import BootMedia.Image.Compression
import Mathlib

/-!
Which paths name a compressed image. A path is searched for its last dot, and what stands there is
compared with the known suffixes; none of this is needed to say what is accepted. Main statement:
a path is taken for a compression exactly if it is a text that is not empty with the suffix of that
compression behind it, which no path is in two ways.
-/
namespace BootMedia.Compression

/-- A path ends in a text, with something before it. -/
def EndsIn (path ending : List Char) : Prop := ∃ stem, stem ≠ [] ∧ path = stem ++ ending

def Dotted (ending : List Char) : Prop := ∃ tail, ending = '.' :: tail ∧ '.' ∉ tail

section LastDot

variable {path ending : List Char}

theorem lastSuffix?_eq_some (h : lastSuffix? path = some ending) :
    Dotted ending ∧ EndsIn path ending := by
  unfold lastSuffix? at h
  rw [List.span_eq_takeWhile_dropWhile] at h
  split at h
  · nomatch h
  · nomatch h
  · rename_i tail dot rest hne hspan
    obtain ⟨htail, hrest⟩ := Prod.mk.inj hspan
    obtain rfl := Option.some.inj h
    have hplain : '.' ∉ tail.reverse := by
      intro hmem
      rw [List.mem_reverse, ← htail] at hmem
      exact absurd (List.mem_takeWhile_imp hmem) (by decide)
    have hdot : dot = '.' := by
      have hstop := List.head_dropWhile_not (· != '.') (l := path.reverse) (by simp [hrest])
      simpa [hrest] using hstop
    have hpath : path = rest.reverse ++ dot :: tail.reverse := by
      have hsplit := List.takeWhile_append_dropWhile (p := (· != '.')) (l := path.reverse)
      rw [htail, hrest] at hsplit
      simpa using (congrArg List.reverse hsplit).symm
    have hstem : rest ≠ [] := by
      rintro rfl
      exact hne rfl
    exact ⟨⟨tail.reverse, by rw [hdot], hplain⟩, rest.reverse, by simpa using hstem, hpath⟩

theorem lastSuffix?_of_endsIn (hdotted : Dotted ending) (hends : EndsIn path ending) :
    lastSuffix? path = some ending := by
  obtain ⟨tail, rfl, htail⟩ := hdotted
  obtain ⟨stem, hstem, rfl⟩ := hends
  obtain ⟨front, c, rfl⟩ := (List.eq_nil_or_concat' stem).resolve_left hstem
  have hall : ∀ c ∈ tail.reverse, (c != '.') = true := by
    intro c hc
    rw [bne_iff_ne]
    rintro rfl
    exact htail (List.mem_reverse.mp hc)
  have hbackwards : (front ++ [c] ++ '.' :: tail).reverse =
      tail.reverse ++ '.' :: c :: front.reverse := by simp
  rw [lastSuffix?, hbackwards, List.span_eq_takeWhile_dropWhile,
    List.takeWhile_append_of_pos hall, List.dropWhile_append_of_pos hall]
  simp

/-- A text that begins with its only dot has no shorter end that does so. -/
theorem not_endsIn_of_dotted (hpath : Dotted path) (hending : Dotted ending) :
    ¬ EndsIn path ending := by
  rintro ⟨stem, hstem, hsplit⟩
  obtain ⟨tail, rfl, htail⟩ := hpath
  obtain ⟨rest, rfl, -⟩ := hending
  obtain ⟨c, more, rfl⟩ := List.exists_cons_of_ne_nil hstem
  obtain ⟨-, rfl⟩ := List.cons.inj hsplit
  exact htail (List.mem_append_right more List.mem_cons_self)

end LastDot

section Table

variable {c c' : Compression} {ending other : List Char}

theorem suffix?_isSome_iff : c.suffix?.isSome = true ↔ c ≠ .none := by
  cases c <;> decide

theorem mem_suffixes_of_suffix? (h : c.suffix? = some ending) : (ending, c) ∈ suffixes := by
  obtain ⟨⟨found, c'⟩, hfind, rfl⟩ := Option.map_eq_some_iff.mp h
  obtain rfl : c' = c := by simpa using List.find?_some hfind
  exact List.mem_of_find?_eq_some hfind

theorem suffix?_of_mem_suffixes (h : (ending, c) ∈ suffixes) : c.suffix? = some ending := by
  have hall : ∀ s ∈ suffixes, s.2.suffix? = some s.1 := by decide
  exact hall _ h

theorem dotted_of_suffix? (h : c.suffix? = some ending) : Dotted ending := by
  have hall : ∀ s ∈ suffixes, s.1.head? = some '.' ∧ '.' ∉ s.1.tail := by decide
  obtain ⟨hhead, htail⟩ := hall _ (mem_suffixes_of_suffix? h)
  obtain ⟨tail, rfl⟩ := List.head?_eq_some_iff.mp hhead
  exact ⟨tail, rfl, htail⟩

theorem suffix?_eq_of_toLower (h : c.suffix? = some ending) (h' : c'.suffix? = some other)
    (hcase : other.map Char.toLower = ending.map Char.toLower) : other = ending := by
  have hall : ∀ s ∈ suffixes, ∀ s' ∈ suffixes,
      s'.1.map Char.toLower = s.1.map Char.toLower → s'.1 = s.1 := by decide
  exact hall _ (mem_suffixes_of_suffix? h) _ (mem_suffixes_of_suffix? h') hcase

end Table

section Sniffing

variable {c : Compression} {path ending other : List Char}

theorem sniff_of_lastSuffix? (hsuffix : c.suffix? = some ending)
    (hlast : lastSuffix? path = some ending) : sniff path = c := by
  have hall : ∀ s ∈ suffixes, (suffixes.find? fun s' => s'.1 == s.1) = some s := by decide
  have hfind := hall _ (mem_suffixes_of_suffix? hsuffix)
  simp only [sniff, hlast, hfind, Option.map_some, Option.getD_some]

theorem exists_lastSuffix?_of_sniff (hc : sniff path ≠ .none) :
    ∃ ending, (sniff path).suffix? = some ending ∧ lastSuffix? path = some ending := by
  cases hlast : lastSuffix? path with
  | none => exact absurd (by simp only [sniff, hlast]) hc
  | some ending =>
    cases hfind : suffixes.find? fun s => s.1 == ending with
    | none =>
      exact absurd (by simp only [sniff, hlast, hfind, Option.map_none, Option.getD_none]) hc
    | some s =>
      obtain rfl : s.1 = ending := by simpa using List.find?_some hfind
      have hsuffix := suffix?_of_mem_suffixes (List.mem_of_find?_eq_some hfind)
      exact ⟨s.1, (sniff_of_lastSuffix? hsuffix hlast).symm ▸ hsuffix, rfl⟩

theorem sniff_of_endsIn (hsuffix : c.suffix? = some ending) (hends : EndsIn path ending) :
    sniff path = c :=
  sniff_of_lastSuffix? hsuffix (lastSuffix?_of_endsIn (dotted_of_suffix? hsuffix) hends)

theorem sniff_eq_iff (hc : c ≠ .none) :
    sniff path = c ↔ ∃ ending, c.suffix? = some ending ∧ EndsIn path ending := by
  constructor
  · rintro rfl
    obtain ⟨ending, hsuffix, hlast⟩ := exists_lastSuffix?_of_sniff hc
    exact ⟨ending, hsuffix, (lastSuffix?_eq_some hlast).2⟩
  · rintro ⟨ending, hsuffix, hends⟩
    exact sniff_of_endsIn hsuffix hends

theorem sniff_eq_none_iff : sniff path = .none ↔
    ∀ (c : Compression) ending, c.suffix? = some ending → ¬ EndsIn path ending := by
  constructor
  · intro hnone c ending hsuffix hends
    obtain rfl := (sniff_of_endsIn hsuffix hends).symm.trans hnone
    nomatch hsuffix
  · intro hno
    by_contra hsome
    obtain ⟨ending, hsuffix, hends⟩ := (sniff_eq_iff hsome).mp rfl
    exact hno _ ending hsuffix hends

theorem toLower_eq_dot {c : Char} (hc : c.toLower = '.') : c = '.' := by
  unfold Char.toLower at hc
  split at hc
  · rename_i hupper
    have hcode : c.val = '.'.val - ('a'.val - 'A'.val) := by
      rw [← hc]
      exact (add_sub_cancel_right c.val _).symm
    rw [hcode] at hupper
    exact absurd hupper (by decide)
  · exact hc

theorem dotted_of_toLower (hdotted : Dotted ending)
    (hcase : other.map Char.toLower = ending.map Char.toLower) : Dotted other := by
  obtain ⟨tail, rfl, htail⟩ := hdotted
  rw [List.map_cons] at hcase
  obtain ⟨first, rest, rfl, hfirst, hrest⟩ := List.map_eq_cons_iff.mp hcase
  refine ⟨rest, by rw [toLower_eq_dot hfirst], fun hmem => ?_⟩
  have hlower : '.' ∈ tail.map Char.toLower := hrest ▸ List.mem_map_of_mem hmem
  obtain ⟨c, hc, hdot⟩ := List.mem_map.mp hlower
  exact htail (toLower_eq_dot hdot ▸ hc)

theorem sniff_of_toLower (hsuffix : c.suffix? = some ending) (hne : other ≠ ending)
    (hcase : other.map Char.toLower = ending.map Char.toLower) (stem : List Char) :
    sniff (stem ++ other) = .none := by
  have hdotted := dotted_of_toLower (dotted_of_suffix? hsuffix) hcase
  by_contra hsome
  obtain ⟨found, hfound, hlast⟩ := exists_lastSuffix?_of_sniff hsome
  by_cases hstem : stem = []
  · obtain rfl := hstem
    exact not_endsIn_of_dotted hdotted (dotted_of_suffix? hfound) (lastSuffix?_eq_some hlast).2
  · have hother := lastSuffix?_of_endsIn hdotted ⟨stem, hstem, rfl⟩
    obtain rfl := Option.some.inj (hother.symm.trans hlast)
    exact hne (suffix?_eq_of_toLower hsuffix hfound hcase)

theorem suggestsBootable_iff : suggestsBootable path = true ↔
    ∃ (c : Compression) (ending : List Char), c.suffix? = some ending ∧ EndsIn path ending := by
  rw [suggestsBootable, isCompressed, suffix?_isSome_iff]
  simp only [ne_eq, sniff_eq_none_iff, not_forall, not_not, exists_prop]

end Sniffing

/-- A path is taken for a compression exactly if it is a text that is not empty with the suffix of
that compression behind it, and for an uncompressed one if it is so with none of them. No path ends
in the suffixes of two compressions, five suffixes in all suggest a bootable image, a suffix put
behind any path that is not empty is recognized, and one in another case never is. -/
theorem sniff_accepts_suffixes (path : List Char) :
    (∀ c : Compression, c ≠ .none → ∃ ending, c.suffix? = some ending ∧
      (sniff path = c ↔ EndsIn path ending)) ∧
    (sniff path = .none ↔
      ∀ (c : Compression) ending, c.suffix? = some ending → ¬ EndsIn path ending) ∧
    (∀ (c c' : Compression) ending ending', c.suffix? = some ending →
      c'.suffix? = some ending' → EndsIn path ending → EndsIn path ending' → c = c') ∧
    (suggestsBootable path = true ↔
      ∃ ending ∈ [".xz", ".gz", ".lzma", ".bz2", ".Z"], EndsIn path ending.toList) ∧
    (∀ (c : Compression) ending, c.suffix? = some ending → path ≠ [] →
      sniff (path ++ ending) = c) ∧
    (∀ (c : Compression) ending other, c.suffix? = some ending → other ≠ ending →
      other.map Char.toLower = ending.map Char.toLower → sniff (path ++ other) = .none) := by
  refine ⟨?accepted, sniff_eq_none_iff, ?unique, ?five, ?appended, ?otherCase⟩
  case accepted =>
    intro c hc
    obtain ⟨ending, hsuffix⟩ := Option.isSome_iff_exists.mp (suffix?_isSome_iff.mpr hc)
    refine ⟨ending, hsuffix, ?_⟩
    simp only [sniff_eq_iff hc, hsuffix, Option.some.injEq, exists_eq_left']
  case unique =>
    intro c c' ending ending' hsuffix hsuffix' hends hends'
    exact (sniff_of_endsIn hsuffix hends).symm.trans (sniff_of_endsIn hsuffix' hends')
  case five =>
    have hfive : suffixes.map (·.1) = [".xz", ".gz", ".lzma", ".bz2", ".Z"].map String.toList := by
      decide
    rw [suggestsBootable_iff]
    constructor
    · rintro ⟨c, ending, hsuffix, hends⟩
      have hmem := List.mem_map_of_mem (f := (·.1)) (mem_suffixes_of_suffix? hsuffix)
      rw [hfive] at hmem
      obtain ⟨text, htext, rfl⟩ := List.mem_map.mp hmem
      exact ⟨text, htext, hends⟩
    · rintro ⟨text, htext, hends⟩
      have hmem := List.mem_map_of_mem (f := String.toList) htext
      rw [← hfive] at hmem
      obtain ⟨⟨ending, c⟩, hknown, rfl⟩ := List.mem_map.mp hmem
      exact ⟨c, _, suffix?_of_mem_suffixes hknown, hends⟩
  case appended =>
    intro c ending hsuffix hpath
    exact sniff_of_endsIn hsuffix ⟨path, hpath, rfl⟩
  case otherCase =>
    intro c ending other hsuffix hne hcase
    exact sniff_of_toLower hsuffix hne hcase path

end BootMedia.Compression
