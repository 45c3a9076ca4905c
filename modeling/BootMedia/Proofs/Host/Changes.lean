import BootMedia.Proofs.Host.Walk
import Mathlib

/-!
What a change of a tree comes to when it succeeds. Removing erases one file, writing and moving put
one, and making directories adds directories where nothing was. Main statements: each of these
leaves everything standing in a directory and keeps the directories there are; removing and moving
leave everything but the places of the file as it was.
-/
namespace BootMedia.Tree

variable {t t' : Tree} {directory : Location}

theorem removeFile_eq_ok {p : PathText} (h : t.removeFile directory p = .ok t') :
    ∃ outer name contents executable,
      t.spot directory p = .ok (.named outer name false) ∧
        t.child outer name = .ok (some (.file contents executable)) ∧
        t' = t.erase (name :: outer) := by
  unfold removeFile at h
  split at h
  · nomatch h
  · nomatch h
  · rename_i outer name slash hspot
    split at h
    · nomatch h
    · nomatch h
    · nomatch h
    · rename_i contents executable hchild
      split at h
      · nomatch h
      · rename_i hslash
        rw [Bool.not_eq_true] at hslash
        exact ⟨outer, name, contents, executable, hslash ▸ hspot, hchild, (Except.ok.inj h).symm⟩

theorem removeFile_eq_ok_iff (ht : t.Rooted) (hdirectory : t.get? directory = some .directory)
    {p : PathText} :
    t.removeFile directory p = .ok t' ↔ ∃ place contents executable,
      t.find directory p = .ok (place, .file contents executable) ∧ t' = t.erase place := by
  constructor
  · intro h
    obtain ⟨outer, name, contents, executable, hspot, hchild, rfl⟩ := removeFile_eq_ok h
    have hfind := (find_eq_file ht hdirectory).mpr ⟨outer, name, rfl, hspot, hchild⟩
    exact ⟨name :: outer, contents, executable, hfind, rfl⟩
  · rintro ⟨place, contents, executable, hfind, rfl⟩
    obtain ⟨outer, name, rfl, hspot, hchild⟩ := (find_eq_file ht hdirectory).mp hfind
    simp only [removeFile, hspot, hchild, Bool.false_eq_true, if_false]

theorem get?_of_removeFile_error {p : PathText} {outer : Location} {name : Name} {cause : Fault}
    (hspot : t.spot directory p = .ok (.named outer name false))
    (h : t.removeFile directory p = .error cause) (hcause : cause.isNotFound = true) :
    t.get? (name :: outer) = none := by
  simp only [removeFile, hspot] at h
  split at h
  · rename_i hchild
    unfold child at hchild
    split at hchild
    · cases hchild
      cases h
      exact absurd hcause (by decide)
    · nomatch hchild
  · rename_i hchild
    exact (child_eq_ok hchild).1
  · cases h
    exact absurd hcause (by decide)
  · nomatch h

/-- Where the system does not look up the text of a path, nothing is removed, and that is not for
want of a file. -/
theorem removeFile_of_not_usable {p : PathText} (hp : p ≠ []) (hunusable : ¬ p.Usable) :
    ∃ cause, t.removeFile directory p = .error cause ∧ cause.isNotFound = false := by
  have hempty : p.isEmpty = false := by simpa using hp
  cases hnul : hasNul p with
  | true => exact ⟨Fault.nulInPath, by simp only [removeFile, spot, hnul, if_true], rfl⟩
  | false =>
    have hlong : pathLimit ≤ byteLength p := by
      by_contra hshort
      exact hunusable ⟨hnul, hempty, Nat.lt_of_not_le hshort⟩
    refine ⟨Fault.nameTooLong, ?_, rfl⟩
    simp only [removeFile, spot, hnul, hempty, hlong, Bool.false_eq_true, if_false, if_true]

/-- A path that leads to a directory cannot be removed, and that is not for want of a file. -/
theorem removeFile_of_enter {p : PathText} {reached : Location} (hp : p ≠ [])
    (henter : t.enter (p.start directory) p.pieces = .ok reached) :
    ∃ cause, t.removeFile directory p = .error cause ∧ cause.isNotFound = false := by
  by_cases husable : p.Usable
  · refine ⟨Fault.isDirectory, ?_, rfl⟩
    rcases spot_of_enter husable henter with hspot | ⟨outer, name, slash, -, hspot, hchild⟩
    · simp only [removeFile, hspot]
    · simp only [removeFile, hspot, hchild]
  · exact removeFile_of_not_usable hp husable

theorem writeFile_eq_ok {p : PathText} {contents : Bytes}
    (h : t.writeFile directory p contents = .ok t') :
    ∃ outer name executable,
      t.spot directory p = .ok (.named outer name false) ∧
        t.get? (name :: outer) ≠ some .directory ∧
        t' = t.put (name :: outer) (.file contents executable) := by
  unfold writeFile at h
  split at h
  · nomatch h
  · nomatch h
  · rename_i outer name slash hspot
    split at h
    · nomatch h
    · nomatch h
    · rename_i hchild
      split at h
      · nomatch h
      · rename_i hslash
        rw [Bool.not_eq_true] at hslash
        refine ⟨outer, name, false, hslash ▸ hspot, ?_, (Except.ok.inj h).symm⟩
        rw [(child_eq_ok hchild).1]
        exact nofun
    · rename_i old executable hchild
      split at h
      · nomatch h
      · rename_i hslash
        rw [Bool.not_eq_true] at hslash
        refine ⟨outer, name, executable, hslash ▸ hspot, ?_, (Except.ok.inj h).symm⟩
        rw [(child_eq_ok hchild).1]
        exact nofun

theorem relocate_eq_ok {source target : Location} {file : Node}
    (h : t.relocate source target file = .ok t') :
    (target = source ∧ t' = t) ∨
      (target ≠ source ∧ t.get? target ≠ some .directory ∧
        t' = (t.erase source).put target file) := by
  unfold relocate at h
  split at h
  · nomatch h
  · split at h
    · rename_i hsame
      exact Or.inl ⟨hsame, (Except.ok.inj h).symm⟩
    · rename_i hother
      split at h
      · nomatch h
      · rename_i hfree
        exact Or.inr ⟨hother, hfree, (Except.ok.inj h).symm⟩

theorem moveFile_eq_ok {source target : PathText}
    (h : t.moveFile directory source target = .ok t') :
    ∃ outer name contents executable newOuter newName,
      t.spot directory source = .ok (.named outer name false) ∧
        t.child outer name = .ok (some (.file contents executable)) ∧
        t.spot directory target = .ok (.named newOuter newName false) ∧
        t.child newOuter newName = .ok (t.get? (newName :: newOuter)) ∧
        t.relocate (name :: outer) (newName :: newOuter) (.file contents executable) = .ok t' := by
  unfold moveFile at h
  split at h
  · nomatch h
  rename_i old hold
  split at h
  · nomatch h
  rename_i new hnew
  split at h
  · rename_i outer name slash newOuter newName newSlash
    split at h
    · nomatch h
    · nomatch h
    · nomatch h
    · rename_i contents executable hchild
      split at h
      · nomatch h
      · rename_i found hfound
        split at h
        · nomatch h
        · rename_i hslashes
          rw [Bool.or_eq_true, not_or, Bool.not_eq_true, Bool.not_eq_true] at hslashes
          obtain ⟨rfl, rfl⟩ := hslashes
          have hfree := (child_eq_ok hfound).2 t
          exact ⟨outer, name, contents, executable, newOuter, newName, hold, hchild, hnew, hfree, h⟩
  · nomatch h

theorem keepsDirectories_removeFile {p : PathText} (h : t.removeFile directory p = .ok t') :
    t.KeepsDirectories t' := by
  obtain ⟨outer, name, contents, executable, _, hchild, rfl⟩ := removeFile_eq_ok h
  exact keepsDirectories_erase (List.cons_ne_nil name outer) (by simp [(child_eq_ok hchild).1])

theorem Rooted.removeFile (ht : t.Rooted) {p : PathText}
    (h : t.removeFile directory p = .ok t') : t'.Rooted := by
  obtain ⟨outer, name, contents, executable, _, hchild, rfl⟩ := removeFile_eq_ok h
  exact ht.erase (List.cons_ne_nil name outer) (by simp [(child_eq_ok hchild).1])

/-- A tree as it is, or without the file that a path leads to. -/
inductive WithoutFile (t : Tree) (directory : Location) (p : PathText) : Tree → Prop
  | same : WithoutFile t directory p t
  | gone {t' : Tree} {place : Location} {contents : Bytes} {executable : Bool}
      (hfile : t.find directory p = .ok (place, .file contents executable))
      (hgone : t'.get? place = none) (hrest : Set.EqOn t'.get? t.get? {place}ᶜ) :
      WithoutFile t directory p t'

theorem WithoutFile.keeps (ht : t.Rooted) (hdirectory : t.get? directory = some .directory)
    {p : PathText} (h : t.WithoutFile directory p t') : t'.Rooted ∧ t.KeepsDirectories t' := by
  cases h with
  | same => exact ⟨ht, .refl t⟩
  | @gone t' place contents executable hfile hgone hrest =>
    obtain ⟨outer, name, rfl, -, hchild⟩ := (find_eq_file ht hdirectory).mp hfile
    have hkeep : t.KeepsDirectories t' := by
      intro l hl
      have hother : l ≠ name :: outer := by
        rintro rfl
        rw [(child_eq_ok hchild).1] at hl
        nomatch hl
      rw [hrest hother, hl]
    refine ⟨fun other around hother => hkeep around (ht other around ?_), hkeep⟩
    have hplace : other :: around ≠ name :: outer := by
      intro heq
      exact hother (heq ▸ hgone)
    rwa [← hrest hplace]

theorem WithoutFile.keeps_back {p : PathText} (h : t.WithoutFile directory p t') :
    t'.KeepsDirectories t := by
  cases h with
  | same => exact .refl t
  | @gone _ place _ _ hfile hgone hrest =>
    intro l hl
    have hother : l ≠ place := by
      rintro rfl
      rw [hgone] at hl
      nomatch hl
    rw [← hrest hother, hl]

theorem withoutFile_of_removeFile {p : PathText} (h : t.removeFile directory p = .ok t') :
    t.WithoutFile directory p t' := by
  obtain ⟨outer, name, contents, executable, hspot, hchild, rfl⟩ := removeFile_eq_ok h
  have hne : name :: outer ≠ [] := List.cons_ne_nil name outer
  have hfind : t.find directory p = .ok (name :: outer, .file contents executable) := by
    simp only [find, hspot, hchild, Bool.false_eq_true, if_false]
  refine .gone hfind ?_ fun l hl => ?_
  · rw [get?_erase t hne, if_pos rfl]
  · rw [get?_erase t hne]
    exact if_neg hl

theorem keepsDirectories_writeFile {p : PathText} {contents : Bytes}
    (h : t.writeFile directory p contents = .ok t') : t.KeepsDirectories t' := by
  obtain ⟨outer, name, executable, _, hfree, rfl⟩ := writeFile_eq_ok h
  exact keepsDirectories_put (List.cons_ne_nil name outer) fun hfull => absurd hfull hfree

theorem exists_find_of_writeFile {p : PathText} {contents : Bytes}
    (h : t.writeFile directory p contents = .ok t') :
    ∃ place executable, t'.find directory p = .ok (place, .file contents executable) := by
  obtain ⟨outer, name, executable, hspot, -, hput⟩ := writeFile_eq_ok h
  have hthere : t'.child outer name = .ok (some (.file contents executable)) := by
    cases hchild : t.child outer name with
    | error cause =>
      simp only [writeFile, hspot, hchild] at h
      nomatch h
    | ok found =>
      rw [(child_eq_ok hchild).2, hput, get?_put t (List.cons_ne_nil name outer), if_pos rfl]
  have hstill := spot_mono (keepsDirectories_writeFile h) hspot
  exact ⟨name :: outer, executable, by
    simp only [find, hstill, hthere, Bool.false_eq_true, if_false]⟩

theorem Rooted.writeFile (ht : t.Rooted) (hdirectory : t.get? directory = some .directory)
    {p : PathText} {contents : Bytes} (h : t.writeFile directory p contents = .ok t') :
    t'.Rooted := by
  obtain ⟨outer, name, executable, hspot, hfree, rfl⟩ := writeFile_eq_ok h
  exact ht.put (ht.directory_of_spot hdirectory hspot) fun hfull => absurd hfull hfree

/-- A file that is put elsewhere stands there and no longer where it was; everything else stands
as before. -/
theorem get?_relocate {source target : Location} {file : Node} (hsource : source ≠ [])
    (htarget : target ≠ []) (hfile : t.get? source = some file)
    (h : t.relocate source target file = .ok t') (l : Location) :
    t'.get? l = if l = target then some file else if l = source then none else t.get? l := by
  rcases relocate_eq_ok h with ⟨rfl, rfl⟩ | ⟨_, _, rfl⟩
  · by_cases hl : l = target
    · rw [if_pos hl, hl, hfile]
    · rw [if_neg hl, if_neg hl]
  · rw [get?_put _ htarget, get?_erase t hsource]

theorem free_of_relocate {source target : Location} {contents : Bytes} {executable : Bool}
    (hfile : t.get? source = some (.file contents executable))
    (h : t.relocate source target (.file contents executable) = .ok t') :
    t.get? target ≠ some .directory := by
  rcases relocate_eq_ok h with ⟨rfl, rfl⟩ | ⟨_, hfree, -⟩
  · rw [hfile]
    exact nofun
  · exact hfree

theorem keepsDirectories_relocate {source target : Location} {contents : Bytes}
    {executable : Bool} (hsource : source ≠ []) (htarget : target ≠ [])
    (hfile : t.get? source = some (.file contents executable))
    (h : t.relocate source target (.file contents executable) = .ok t') :
    t.KeepsDirectories t' := by
  have hfree := free_of_relocate hfile h
  intro l hl
  have hnew : l ≠ target := by
    rintro rfl
    exact hfree hl
  have hold : l ≠ source := by
    rintro rfl
    rw [hfile] at hl
    nomatch hl
  rw [get?_relocate hsource htarget hfile h, if_neg hnew, if_neg hold, hl]

theorem Rooted.relocate (ht : t.Rooted) {source newOuter : Location} {newName : Name}
    {contents : Bytes} {executable : Bool} (hsource : source ≠ [])
    (hfile : t.get? source = some (.file contents executable))
    (houter : t.get? newOuter = some .directory)
    (h : t.relocate source (newName :: newOuter) (.file contents executable) = .ok t') :
    t'.Rooted := by
  have hne : newName :: newOuter ≠ [] := List.cons_ne_nil newName newOuter
  intro other around hother
  refine keepsDirectories_relocate hsource hne hfile h around ?_
  rw [get?_relocate hsource hne hfile h] at hother
  by_cases hplace : other :: around = newName :: newOuter
  · obtain ⟨rfl, rfl⟩ := List.cons.inj hplace
    exact houter
  · rw [if_neg hplace] at hother
    refine ht other around fun hnone => hother ?_
    rw [hnone, ite_self]

theorem keepsDirectories_moveFile {source target : PathText}
    (h : t.moveFile directory source target = .ok t') : t.KeepsDirectories t' := by
  obtain ⟨outer, name, _, _, newOuter, newName, -, hchild, -, -, hrelocate⟩ := moveFile_eq_ok h
  exact keepsDirectories_relocate (List.cons_ne_nil name outer)
    (List.cons_ne_nil newName newOuter) (child_eq_ok hchild).1 hrelocate

theorem Rooted.moveFile (ht : t.Rooted) (hdirectory : t.get? directory = some .directory)
    {source target : PathText} (h : t.moveFile directory source target = .ok t') : t'.Rooted := by
  obtain ⟨outer, name, _, _, _, _, -, hchild, hnew, -, hrelocate⟩ := moveFile_eq_ok h
  exact ht.relocate (List.cons_ne_nil name outer) (child_eq_ok hchild).1
    (ht.directory_of_spot hdirectory hnew) hrelocate

/-- One tree is another with a file moved from where one path leads to where another path leads,
in place of a file there. Nothing is left of it where it was, unless both paths lead to it. -/
structure Moved (t : Tree) (directory : Location) (source target : PathText) (t' : Tree)
    (place goal : Location) (contents : Bytes) (executable : Bool) : Prop where
  found : t.find directory source = .ok (place, .file contents executable)
  free : t.get? goal ≠ some .directory
  brought : t'.find directory target = .ok (goal, .file contents executable)
  gone : place ≠ goal → t'.find directory source = .error Fault.noEntry ∧ t'.get? place = none
  unmoved : place = goal → t'.get? = t.get?
  rest : Set.EqOn t'.get? t.get? {place, goal}ᶜ

theorem Moved.keepsDirectories {source target : PathText} {place goal : Location}
    {contents : Bytes} {executable : Bool}
    (h : t.Moved directory source target t' place goal contents executable) :
    t.KeepsDirectories t' := by
  intro l hl
  have hplace : l ≠ place := by
    rintro rfl
    rw [get?_of_find h.found] at hl
    nomatch hl
  have hgoal : l ≠ goal := by
    rintro rfl
    exact h.free hl
  rw [h.rest (by simp [hplace, hgoal]), hl]

theorem moved_of_moveFile {source target : PathText}
    (h : t.moveFile directory source target = .ok t') :
    ∃ place goal contents executable,
      t.Moved directory source target t' place goal contents executable := by
  obtain ⟨outer, name, contents, executable, newOuter, newName, hspot, hchild, hnew, hshort,
    hrelocate⟩ := moveFile_eq_ok h
  have hne : name :: outer ≠ [] := List.cons_ne_nil name outer
  have hne' : newName :: newOuter ≠ [] := List.cons_ne_nil newName newOuter
  have hfile := (child_eq_ok hchild).1
  have hget := get?_relocate hne hne' hfile hrelocate
  -- Directories stay, so both paths still lead where they led before.
  have hkeep := keepsDirectories_relocate hne hne' hfile hrelocate
  refine ⟨name :: outer, newName :: newOuter, contents, executable, ?_⟩
  exact {
    found := by simp only [find, hspot, hchild, Bool.false_eq_true, if_false]
    free := free_of_relocate hfile hrelocate
    brought := by
      have hthere : t'.child newOuter newName = .ok (some (.file contents executable)) := by
        rw [(child_eq_ok hshort).2, hget, if_pos rfl]
      simp only [find, spot_mono hkeep hnew, hthere, Bool.false_eq_true, if_false]
    gone := by
      intro hother
      have hnone : t'.get? (name :: outer) = none := by
        rw [hget, if_neg hother, if_pos rfl]
      refine ⟨?_, hnone⟩
      simp only [find, spot_mono hkeep hspot, (child_eq_ok hchild).2, hnone]
    unmoved := by
      intro hsame
      funext l
      rw [hget, ← hsame]
      by_cases hl : l = name :: outer
      · rw [if_pos hl, hl, hfile]
      · rw [if_neg hl, if_neg hl]
    rest := by
      intro l hl
      rw [Set.mem_compl_iff, Set.mem_insert_iff, Set.mem_singleton_iff, not_or] at hl
      rw [hget, if_neg hl.2, if_neg hl.1] }

/-- One tree is another with directories added where nothing was. -/
def AddsDirectories (t t' : Tree) : Prop :=
  ∀ l, t'.get? l = t.get? l ∨ t.get? l = none ∧ t'.get? l = some .directory

namespace AddsDirectories

theorem refl (t : Tree) : AddsDirectories t t := fun _ => Or.inl rfl

theorem trans {t'' : Tree} (h : AddsDirectories t t') (h' : AddsDirectories t' t'') :
    AddsDirectories t t'' := by
  intro l
  rcases h l with hsame | ⟨hnone, hmade⟩
  · rcases h' l with hsame' | ⟨hnone', hmade'⟩
    · exact Or.inl (hsame'.trans hsame)
    · exact Or.inr ⟨hsame ▸ hnone', hmade'⟩
  · rcases h' l with hsame' | ⟨hnone', _⟩
    · exact Or.inr ⟨hnone, hsame'.trans hmade⟩
    · rw [hmade] at hnone'
      nomatch hnone'

theorem keepsDirectories (h : AddsDirectories t t') : t.KeepsDirectories t' := by
  intro l hl
  rcases h l with hsame | ⟨_, hmade⟩
  · exact hsame.trans hl
  · exact hmade

theorem file_iff (h : AddsDirectories t t') {l : Location} {contents : Bytes}
    {executable : Bool} :
    t'.get? l = some (.file contents executable) ↔ t.get? l = some (.file contents executable) := by
  rcases h l with hsame | ⟨hnone, hmade⟩
  · rw [hsame]
  · simp [hnone, hmade]

end AddsDirectories

theorem addsDirectories_put {l : Location} (hne : l ≠ []) (hl : t.get? l = none) :
    AddsDirectories t (t.put l .directory) := by
  intro other
  rw [get?_put t hne]
  by_cases heq : other = l
  · exact Or.inr ⟨heq ▸ hl, if_pos heq⟩
  · exact Or.inl (if_neg heq)

/-- Making directories only adds directories, each in one that is there. -/
theorem Rooted.makePieces (ht : t.Rooted) (hdirectory : t.get? directory = some .directory)
    (ps : List Name) :
    (t.makePieces directory ps).Rooted ∧ t.AddsDirectories (t.makePieces directory ps) := by
  induction ps generalizing t directory with
  | nil => exact ⟨ht, .refl t⟩
  | cons piece ps ih =>
    unfold Tree.makePieces
    split
    · exact ih ht hdirectory
    split
    · exact ih ht (ht.tail hdirectory)
    have hne : piece :: directory ≠ [] := List.cons_ne_nil piece directory
    split
    · rename_i hchild
      have hnone := (child_eq_ok hchild).1
      have hput := ht.put hdirectory (fun hfull : t.get? (piece :: directory) = _ => rfl)
      have hinner : (t.put (piece :: directory) .directory).get? (piece :: directory) =
          some .directory := by
        rw [get?_put t hne, if_pos rfl]
      obtain ⟨hrooted, hadds⟩ := ih hput hinner
      exact ⟨hrooted, (addsDirectories_put hne hnone).trans hadds⟩
    · rename_i hchild
      exact ih ht (child_eq_ok hchild).1
    · exact ⟨ht, .refl t⟩

theorem Rooted.makeDirectories (ht : t.Rooted) (hdirectory : t.get? directory = some .directory)
    (p : PathText) :
    (t.makeDirectories directory p).Rooted ∧
      t.AddsDirectories (t.makeDirectories directory p) := by
  unfold Tree.makeDirectories
  split
  · exact ⟨ht, .refl t⟩
  · exact ht.makePieces (directory_start p hdirectory) p.pieces

end BootMedia.Tree
