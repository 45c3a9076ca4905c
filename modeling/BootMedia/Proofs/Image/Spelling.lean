import BootMedia.Image.Opening
import BootMedia.Image.Report
import BootMedia.Proofs.Host.Programs
import BootMedia.Proofs.Image.Suffixes
import BootMedia.Proofs.PathPieces
import Mathlib

/-!
How much the spelling of a path counts. An image is sniffed by the text of its path, while what is
meant is the name of a file. Main statement: in front of a slash nothing counts, so all paths of a
file are taken for the same compression; only a name that is a suffix and nothing else is taken for
a compression behind a slash and for none alone, and only for such a name can two paths of one file
lead to different reports.
-/
namespace BootMedia

namespace Compression

variable {c : Compression} {name outer path path' ending : List Char}

/-- A name is one of the suffixes and nothing else. -/
def BareSuffix (name : List Char) : Prop := ∃ c : Compression, c.suffix? = some name

theorem slash_not_mem_of_suffix? (h : c.suffix? = some ending) : '/' ∉ ending := by
  have hall : ∀ s ∈ suffixes, '/' ∉ s.1 := by decide
  exact hall _ (mem_suffixes_of_suffix? h)

theorem endsIn_below_iff (hending : '/' ∉ ending) :
    EndsIn (outer ++ '/' :: name) ending ↔ ending <:+ name := by
  constructor
  · rintro ⟨stem, -, hsplit⟩
    have hwhole : ending <:+ outer ++ '/' :: name := ⟨stem, hsplit.symm⟩
    rcases List.suffix_or_suffix_of_suffix hwhole (List.suffix_append outer ('/' :: name)) with
      hinside | haround
    · rcases List.suffix_cons_iff.mp hinside with rfl | hname
      · exact absurd List.mem_cons_self hending
      · exact hname
    · exact absurd (haround.subset List.mem_cons_self) hending
  · rintro ⟨front, rfl⟩
    exact ⟨outer ++ '/' :: front, by simp, by simp⟩

theorem sniff_congr (h : ∀ (c : Compression) ending, c.suffix? = some ending →
    (EndsIn path ending ↔ EndsIn path' ending)) : sniff path = sniff path' := by
  by_cases hsome : sniff path = .none
  · have hnone : sniff path' = .none := by
      rw [sniff_eq_none_iff] at hsome ⊢
      intro c ending hsuffix hends
      exact hsome c ending hsuffix ((h c ending hsuffix).mpr hends)
    rw [hsome, hnone]
  · obtain ⟨ending, hsuffix, hends⟩ := (sniff_eq_iff hsome).mp rfl
    exact (sniff_of_endsIn hsuffix ((h _ ending hsuffix).mp hends)).symm

theorem sniff_below_congr (outer outer' name : List Char) :
    sniff (outer ++ '/' :: name) = sniff (outer' ++ '/' :: name) := by
  refine sniff_congr fun c ending hsuffix => ?_
  have hslash := slash_not_mem_of_suffix? hsuffix
  rw [endsIn_below_iff hslash, endsIn_below_iff hslash]

theorem sniff_below_of_not_bareSuffix (hbare : ¬ BareSuffix name) (outer : List Char) :
    sniff (outer ++ '/' :: name) = sniff name := by
  refine sniff_congr fun c ending hsuffix => ?_
  rw [endsIn_below_iff (slash_not_mem_of_suffix? hsuffix)]
  constructor
  · rintro ⟨stem, rfl⟩
    refine ⟨stem, ?_, rfl⟩
    rintro rfl
    exact hbare ⟨c, hsuffix⟩
  · rintro ⟨stem, -, rfl⟩
    exact List.suffix_append stem ending

theorem sniff_below_of_suffix? (hsuffix : c.suffix? = some name) (outer : List Char) :
    sniff (outer ++ '/' :: name) = c :=
  sniff_of_endsIn hsuffix
    ((endsIn_below_iff (slash_not_mem_of_suffix? hsuffix)).mpr (List.suffix_refl name))

theorem sniff_of_dotted (hdotted : Dotted name) : sniff name = .none :=
  sniff_eq_none_iff.mpr fun _ _ hsuffix =>
    not_endsIn_of_dotted hdotted (dotted_of_suffix? hsuffix)

end Compression

/-- A path that leads to a file is the name of the file, or ends in a slash and this name. -/
theorem Host.spelling_of_find {h : Host} (hs : h.Sound) {p : PathText} {name : Name}
    {outer : Location} {contents : Bytes} {executable : Bool}
    (hfind : h.tree.find h.directory p = .ok (name :: outer, .file contents executable)) :
    '/' ∉ name ∧ (p = name ∨ ∃ way, p = way ++ '/' :: name) := by
  obtain ⟨outer', name', hplace, hspot, -⟩ :=
    (Tree.find_eq_file hs.rooted hs.standing).mp hfind
  obtain ⟨rfl, rfl⟩ := List.cons.inj hplace
  obtain ⟨husable, -, -, hslash, way, hway, -⟩ := Tree.spot_eq_named.mp hspot
  have hp : p ≠ [] := by simpa using husable.nonempty
  obtain ⟨last, hlast, hplain, hspelled⟩ := PathText.exists_last hp hslash
  rw [hway, List.getLast?_concat] at hlast
  obtain rfl := Option.some.inj hlast
  exact ⟨hplain, hspelled⟩

namespace Compression

/-- Two paths of one file are taken for the same compression, unless the name of the file is a bare
suffix and only one of the paths has a slash. -/
theorem sniff_spelled {p p' : PathText} {name : Name} (hname : '/' ∉ name)
    (hp : p = name ∨ ∃ way, p = way ++ '/' :: name)
    (hp' : p' = name ∨ ∃ way, p' = way ++ '/' :: name)
    (hbare : BareSuffix name → p.contains '/' = p'.contains '/') : sniff p = sniff p' := by
  have hplain : name.contains '/' = false := by simpa using hname
  have hslash (way : PathText) : (way ++ '/' :: name).contains '/' = true := by simp
  rcases hp with rfl | ⟨way, rfl⟩ <;> rcases hp' with rfl | ⟨way', rfl⟩
  · rfl
  · refine (sniff_below_of_not_bareSuffix (fun h => ?_) way').symm
    have hsame := hbare h
    rw [hplain, hslash] at hsame
    nomatch hsame
  · refine sniff_below_of_not_bareSuffix (fun h => ?_) way
    have hsame := hbare h
    rw [hplain, hslash] at hsame
    nomatch hsame
  · exact sniff_below_congr way way' name

end Compression

theorem classify_congr {path path' : PathText}
    (h : Compression.sniff path = Compression.sniff path') (image : OpenImage)
    (analyzer : Analyzer) :
    classify path (.ok image) analyzer = classify path' (.ok image) analyzer := by
  simp only [classify, examine, h]

theorem Host.openImage_of_find {h : Host} {p : PathText} {place : Location} {contents : Bytes}
    {executable : Bool}
    (hfind : h.tree.find h.directory p = .ok (place, .file contents executable)) :
    h.openImage p = .ok (.ofFile contents) := by
  simp only [openImage, hfind]

namespace Compression

/-- A name is taken for the same compression wherever it stands, unless it is a suffix and nothing
else: then it is taken for that compression behind a slash, and for none alone. So in front of the
slash nothing counts, a hidden file without an extension is uncompressed wherever it lies unless its
name is a bare suffix, and all paths of a file lead to the same report, those of a file whose name
is a bare suffix if both have a slash or neither has one. -/
theorem sniff_by_file_name (name : Name) (hname : '/' ∉ name) :
    (∀ outer, sniff (outer ++ '/' :: name) = sniff name ↔ ¬ BareSuffix name) ∧
    (∀ c : Compression, c.suffix? = some name →
      sniff name = .none ∧ ∀ outer, sniff (outer ++ '/' :: name) = c) ∧
    (∀ outer outer', sniff (outer ++ '/' :: name) = sniff (outer' ++ '/' :: name)) ∧
    (Dotted name → ¬ BareSuffix name →
      sniff name = .none ∧ ∀ outer, sniff (outer ++ '/' :: name) = .none) ∧
    (∀ (h : Host) (p p' : PathText) (outer : Location) contents executable, h.Sound →
      h.tree.find h.directory p = .ok (name :: outer, .file contents executable) →
      h.tree.find h.directory p' = .ok (name :: outer, .file contents executable) →
      (BareSuffix name → p.contains '/' = p'.contains '/') → ∀ analyzer,
      classify p (h.openImage p) analyzer = classify p' (h.openImage p') analyzer) := by
  refine ⟨?everywhere, ?bare, fun outer outer' => sniff_below_congr outer outer' name, ?hidden,
    ?spellings⟩
  case everywhere =>
    intro outer
    constructor
    · rintro hsame ⟨c, hsuffix⟩
      rw [sniff_below_of_suffix? hsuffix, sniff_of_dotted (dotted_of_suffix? hsuffix)] at hsame
      obtain rfl := hsame
      nomatch hsuffix
    · intro hbare
      exact sniff_below_of_not_bareSuffix hbare outer
  case bare =>
    intro c hsuffix
    exact ⟨sniff_of_dotted (dotted_of_suffix? hsuffix), sniff_below_of_suffix? hsuffix⟩
  case hidden =>
    intro hdotted hbare
    have hnone := sniff_of_dotted hdotted
    exact ⟨hnone, fun outer => (sniff_below_of_not_bareSuffix hbare outer).trans hnone⟩
  case spellings =>
    intro h p p' outer contents executable hs hfind hfind' hbare analyzer
    obtain ⟨-, hp⟩ := Host.spelling_of_find hs hfind
    obtain ⟨-, hp'⟩ := Host.spelling_of_find hs hfind'
    rw [Host.openImage_of_find hfind, Host.openImage_of_find hfind']
    exact classify_congr (sniff_spelled hname hp hp' hbare) _ analyzer

/-- A file by its name and by a longer path, a name that is a bare suffix, and a hidden one. -/
theorem sniff_by_file_name_samples :
    let placed := Tree.empty.put [['w']] .directory
    let tree := placed.put [['d', '.', 'x', 'z'], ['w']] (.file [7] false)
    let host : Host := ⟨tree, [['w']], Option.none, fun _ => ⟨[], .exited 0, []⟩, []⟩
    (∀ analyzer, classify ['d', '.', 'x', 'z'] (host.openImage ['d', '.', 'x', 'z']) analyzer =
      classify ['/', 'w', '/', 'd', '.', 'x', 'z']
        (host.openImage ['/', 'w', '/', 'd', '.', 'x', 'z']) analyzer) ∧
    sniff ['.', 'x', 'z'] = .none ∧ sniff ['w', '/', '.', 'x', 'z'] = .xz ∧
    sniff ['w', '.', 'x', 'z', '/', '.', 'r', 'c'] = .none := by
  intro placed tree host
  have hplaced : placed.Rooted := Tree.rooted_empty.put rfl fun _ => rfl
  have hhost : host.Sound := ⟨hplaced.put rfl nofun, rfl⟩
  obtain ⟨-, -, -, -, hspelled⟩ := sniff_by_file_name ['d', '.', 'x', 'z'] (by decide)
  obtain ⟨-, hbare, -⟩ := sniff_by_file_name ['.', 'x', 'z'] (by decide)
  obtain ⟨-, -, -, hhidden, -⟩ := sniff_by_file_name ['.', 'r', 'c'] (by decide)
  have hordinary : ¬ BareSuffix ['d', '.', 'x', 'z'] := by
    rintro ⟨c, hc⟩
    cases c <;> exact absurd hc (by decide)
  have hno : ¬ BareSuffix ['.', 'r', 'c'] := by
    rintro ⟨c, hc⟩
    cases c <;> exact absurd hc (by decide)
  refine ⟨?_, (hbare .xz rfl).1, (hbare .xz rfl).2 ['w'], ?_⟩
  · exact hspelled host _ _ [['w']] [7] false hhost (by decide +kernel) (by decide +kernel)
      fun h => absurd h hordinary
  · exact (hhidden ⟨['r', 'c'], rfl, by decide⟩ hno).2 ['w', '.', 'x', 'z']

/-- The name alone does not decide: a bare suffix is one in a directory only. -/
theorem sniff_may_depend_on_directory :
    ¬ ∀ outer name : List Char, '/' ∉ name → sniff (outer ++ '/' :: name) = sniff name := by
  intro hclaim
  have hsame := hclaim ['d'] ['.', 'g', 'z'] (by decide)
  exact absurd hsame (by decide)

end Compression

end BootMedia
