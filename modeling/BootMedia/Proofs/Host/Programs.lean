import BootMedia.Host.Process
import BootMedia.Proofs.Host.Changes
import Mathlib

/-!
What a program leaves behind on a host whose files are in order. The writes of a program that
succeed form a log, in the order in which they happen. Main statement: a file that stands somewhere
after the program ran was there before, or holds what the last write to its place brought.
-/
namespace BootMedia

namespace Effect

variable {directory : Location} {t : Tree}

/-- The place an effect writes a file to, and what it writes; nothing where it writes no file. -/
def written? (directory : Location) (t : Tree) : Effect → Option (Location × Bytes)
  | makeDirectories _ => none
  | writeFile path contents =>
    match t.spot directory path, t.writeFile directory path contents with
    | .ok (.named outer name _), .ok _ => some (name :: outer, contents)
    | _, _ => none

def writes (directory : Location) : Tree → List Effect → List (Location × Bytes)
  | _, [] => []
  | t, e :: rest =>
    (e.written? directory t).toList ++ writes directory (e.apply directory t) rest

/-- What the last write to a place brings, if there is one. -/
def lastWrite (directory : Location) (t : Tree) (effects : List Effect) (place : Location) :
    Option Bytes :=
  (writes directory t effects).reverse.lookup place

theorem lastWrite_cons (e : Effect) (rest : List Effect) (place : Location) :
    lastWrite directory t (e :: rest) place =
      (lastWrite directory (e.apply directory t) rest place).or
        ((e.written? directory t).toList.lookup place) := by
  have hone : (e.written? directory t).toList.reverse = (e.written? directory t).toList := by
    cases e.written? directory t <;> rfl
  rw [lastWrite, writes, List.reverse_append, List.lookup_append, hone]
  rfl

theorem apply_rooted (ht : t.Rooted) (hdirectory : t.get? directory = some .directory)
    (e : Effect) :
    (e.apply directory t).Rooted ∧ t.KeepsDirectories (e.apply directory t) := by
  cases e with
  | makeDirectories path =>
    obtain ⟨hrooted, hadds⟩ := ht.makeDirectories hdirectory path
    exact ⟨hrooted, hadds.keepsDirectories⟩
  | writeFile path contents =>
    rw [apply]
    cases hchanged : t.writeFile directory path contents with
    | ok changed =>
      exact ⟨ht.writeFile hdirectory hchanged, Tree.keepsDirectories_writeFile hchanged⟩
    | error cause => exact ⟨ht, .refl t⟩

theorem apply_of_lookup {e : Effect} {place : Location} {brought : Bytes}
    (h : (e.written? directory t).toList.lookup place = some brought) :
    ∃ outer name executable, place = name :: outer ∧
      e.apply directory t = t.put (name :: outer) (.file brought executable) := by
  cases e with
  | makeDirectories path => simp [written?] at h
  | writeFile path given =>
    cases hchanged : t.writeFile directory path given with
    | error cause => simp [written?, hchanged] at h
    | ok changed =>
      obtain ⟨outer, name, executable, hspot, _, rfl⟩ := Tree.writeFile_eq_ok hchanged
      have hwritten : (written? directory t (writeFile path given)).toList =
          [(name :: outer, given)] := by
        simp only [written?, hspot, hchanged, Option.toList_some]
      by_cases hplace : place = name :: outer
      · rw [hwritten, hplace, List.lookup_cons_self] at h
        cases h
        exact ⟨outer, name, executable, hplace, by simp only [apply, hchanged]⟩
      · have hother : (place == name :: outer) = false := by simpa using hplace
        simp [hwritten, List.lookup_cons, hother] at h

theorem file_apply_iff (ht : t.Rooted) (hdirectory : t.get? directory = some .directory)
    {e : Effect} {place : Location} (hspared : (e.written? directory t).toList.lookup place = none)
    {contents : Bytes} {executable : Bool} :
    (e.apply directory t).get? place = some (.file contents executable) ↔
      t.get? place = some (.file contents executable) := by
  cases e with
  | makeDirectories path => exact (ht.makeDirectories hdirectory path).2.file_iff
  | writeFile path brought =>
    rw [apply]
    cases hchanged : t.writeFile directory path brought with
    | error cause => exact Iff.rfl
    | ok changed =>
      obtain ⟨outer, name, _, hspot, _, rfl⟩ := Tree.writeFile_eq_ok hchanged
      have hother : place ≠ name :: outer := by
        rintro rfl
        simp [written?, hspot, hchanged] at hspared
      rw [Tree.get?_put t (List.cons_ne_nil name outer), if_neg hother]

theorem file_of_apply (ht : t.Rooted) (hdirectory : t.get? directory = some .directory)
    (e : Effect) {place : Location} {contents : Bytes} {executable : Bool}
    (hfile : (e.apply directory t).get? place = some (.file contents executable)) :
    (e.written? directory t).toList.lookup place = some contents ∨
      (e.written? directory t).toList.lookup place = none ∧
        t.get? place = some (.file contents executable) := by
  cases hlookup : (e.written? directory t).toList.lookup place with
  | none => exact Or.inr ⟨rfl, (file_apply_iff ht hdirectory hlookup).mp hfile⟩
  | some brought =>
    obtain ⟨outer, name, mark, rfl, hput⟩ := apply_of_lookup hlookup
    rw [hput, Tree.get?_put t (List.cons_ne_nil name outer), if_pos rfl] at hfile
    cases hfile
    exact Or.inl rfl

theorem foldl_apply_rooted (ht : t.Rooted) (hdirectory : t.get? directory = some .directory)
    (effects : List Effect) :
    (effects.foldl (apply directory) t).Rooted ∧
      t.KeepsDirectories (effects.foldl (apply directory) t) := by
  induction effects generalizing t with
  | nil => exact ⟨ht, .refl t⟩
  | cons e rest ih =>
    obtain ⟨hrooted, hkeeps⟩ := apply_rooted ht hdirectory e
    obtain ⟨hfinal, hafter⟩ := ih hrooted (hkeeps _ hdirectory)
    exact ⟨hfinal, hkeeps.trans hafter⟩

/-- A file that stands after effects holds what the last write there brought, or it was there
before all of them. -/
theorem file_of_effects (ht : t.Rooted) (hdirectory : t.get? directory = some .directory)
    (effects : List Effect) {place : Location} {contents : Bytes} {executable : Bool}
    (hfile : (effects.foldl (apply directory) t).get? place =
      some (.file contents executable)) :
    lastWrite directory t effects place = some contents ∨
      lastWrite directory t effects place = none ∧
        t.get? place = some (.file contents executable) := by
  induction effects generalizing t with
  | nil => exact Or.inr ⟨rfl, hfile⟩
  | cons e rest ih =>
    obtain ⟨hrooted, hkeeps⟩ := apply_rooted ht hdirectory e
    rw [lastWrite_cons]
    rcases ih hrooted (hkeeps _ hdirectory) hfile with hlast | ⟨hnone, hbetween⟩
    · exact Or.inl (by simp [hlast])
    · simp only [hnone, Option.none_or]
      exact file_of_apply ht hdirectory e hbetween

theorem file_effects_iff (ht : t.Rooted) (hdirectory : t.get? directory = some .directory)
    {effects : List Effect} {place : Location}
    (hspared : lastWrite directory t effects place = none) {contents : Bytes}
    {executable : Bool} :
    (effects.foldl (apply directory) t).get? place = some (.file contents executable) ↔
      t.get? place = some (.file contents executable) := by
  induction effects generalizing t with
  | nil => exact Iff.rfl
  | cons e rest ih =>
    obtain ⟨hrooted, hkeeps⟩ := apply_rooted ht hdirectory e
    rw [lastWrite_cons, Option.or_eq_none_iff] at hspared
    obtain ⟨hlater, hfirst⟩ := hspared
    exact (ih hrooted (hkeeps _ hdirectory) hlater).trans (file_apply_iff ht hdirectory hfirst)

theorem lastWrite_of_vacant (ht : t.Rooted) (hdirectory : t.get? directory = some .directory)
    (effects : List Effect) {place : Location} {contents : Bytes} {executable : Bool}
    (hvacant : t.get? place = none)
    (hfile : (effects.foldl (apply directory) t).get? place =
      some (.file contents executable)) :
    lastWrite directory t effects place = some contents := by
  rcases file_of_effects ht hdirectory effects hfile with hlast | ⟨_, hbefore⟩
  · exact hlast
  · rw [hvacant] at hbefore
    nomatch hbefore

end Effect

namespace Host

/-- The files of a host are in order: everything stands in a directory, and the current directory
is one. -/
structure Sound (h : Host) : Prop where
  rooted : h.tree.Rooted
  standing : h.tree.get? h.directory = some .directory

/-- A program that could be started ran in the directory it was given, as the next launch. -/
theorem launch_eq_ok {aftermath : Aftermath} {h after : Host} {program directory : PathText}
    {arguments : List (List Char)} {run : Run}
    (hlaunch : h.launch program directory arguments aftermath = .ok (run, after)) :
    ∃ location inside, h.tree.findDirectory h.directory directory = .ok inside ∧
      h.resolveProgram inside program = .ok location ∧
      run = h.runs h.launches.length ∧
      after = { h with
        tree := aftermath run inside h.tree
        launches := h.launches ++ [⟨location, inside, arguments⟩] } := by
  unfold launch at hlaunch
  split at hlaunch
  · nomatch hlaunch
  split at hlaunch
  · nomatch hlaunch
  rename_i inside hinside
  split at hlaunch
  · nomatch hlaunch
  rename_i location hlocation
  split at hlaunch
  · nomatch hlaunch
  cases hlaunch
  exact ⟨location, inside, hinside, hlocation, rfl, rfl⟩

theorem launch_of_resolved (aftermath : Aftermath) {h : Host} {program directory : PathText}
    {arguments : List (List Char)} {location inside : Location}
    (hnul : (program :: directory :: arguments).any hasNul = false)
    (hinside : h.tree.findDirectory h.directory directory = .ok inside)
    (hlocation : h.resolveProgram inside program = .ok location)
    (hshort : ∀ t ∈ arguments ++ h.searchPathEntry, byteLength t < argumentLimit) :
    ∃ run after, h.launch program directory arguments aftermath = .ok (run, after) ∧
      after.launches = h.launches ++ [⟨location, inside, arguments⟩] := by
  have hfit : (arguments ++ h.searchPathEntry).any (fun t => argumentLimit ≤ byteLength t) =
      false := by
    rw [List.any_eq_false]
    intro t ht
    rw [decide_eq_true_iff, Nat.not_le]
    exact hshort t ht
  let run := h.runs h.launches.length
  refine ⟨run, { h with
    tree := aftermath run inside h.tree
    launches := h.launches ++ [⟨location, inside, arguments⟩] }, ?_, rfl⟩
  simp only [launch, hnul, hinside, hlocation, hfit, Bool.false_eq_true, if_false, run]

/-- What keeps a program from being started in a directory. -/
inductive Hindered (h : Host) (program directory : PathText) (arguments : List (List Char)) : Prop
  | nul {t : List Char} (ht : t ∈ program :: directory :: arguments) (hnul : hasNul t = true)
  | noDirectory (hnone : ∀ inside, h.tree.findDirectory h.directory directory ≠ .ok inside)
  | noProgram {inside : Location}
      (hinside : h.tree.findDirectory h.directory directory = .ok inside)
      (hslash : program.contains '/' = true)
      (hnone : ∀ location contents,
        h.tree.find inside program ≠ .ok (location, .file contents true))
  | notOnPath {inside : Location}
      (hinside : h.tree.findDirectory h.directory directory = .ok inside)
      (hslash : program.contains '/' = false)
      (hnone : ∀ location, h.resolveProgram inside program ≠ .ok location)
  | tooLong {t : List Char} (ht : t ∈ arguments ++ h.searchPathEntry)
      (hlong : argumentLimit ≤ byteLength t)

variable {aftermath : Aftermath} {h : Host} {program directory : PathText}
  {arguments : List (List Char)}

theorem find_of_programAt {inside location : Location}
    (hthere : h.programAt inside program = .ok location) :
    ∃ contents, h.tree.find inside program = .ok (location, .file contents true) := by
  unfold programAt at hthere
  split at hthere
  · nomatch hthere
  · rename_i found contents hfound
    cases hthere
    exact ⟨contents, hfound⟩
  · nomatch hthere

theorem programAt_of_find {inside location : Location} {contents : Bytes}
    (hfound : h.tree.find inside program = .ok (location, .file contents true)) :
    h.programAt inside program = .ok location := by
  simp only [programAt, hfound]

theorem resolveProgram_of_slash (hslash : program.contains '/' = true) (inside : Location) :
    h.resolveProgram inside program = h.programAt inside program := by
  have hempty : program.isEmpty = false := by
    cases program with
    | nil => nomatch hslash
    | cons c rest => rfl
  simp only [resolveProgram, hempty, hslash, Bool.false_eq_true, if_false, if_true]

theorem texts_of_launch {run : Run} {after : Host}
    (hlaunch : h.launch program directory arguments aftermath = .ok (run, after)) :
    (∀ t ∈ program :: directory :: arguments, hasNul t = false) ∧
      ∀ t ∈ arguments ++ h.searchPathEntry, byteLength t < argumentLimit := by
  unfold launch at hlaunch
  split at hlaunch
  · nomatch hlaunch
  rename_i hnul
  split at hlaunch
  · nomatch hlaunch
  split at hlaunch
  · nomatch hlaunch
  split at hlaunch
  · nomatch hlaunch
  rename_i hlong
  rw [Bool.not_eq_true, List.any_eq_false] at hnul hlong
  refine ⟨fun t ht => Bool.eq_false_iff.mpr (hnul t ht), fun t ht => ?_⟩
  have hshort := hlong t ht
  rwa [decide_eq_true_iff, Nat.not_le] at hshort

/-- A program cannot be started exactly if something keeps it from being started. -/
theorem launch_fails_iff (aftermath : Aftermath) :
    (∃ cause, h.launch program directory arguments aftermath = .error cause) ↔
      h.Hindered program directory arguments := by
  constructor
  · rintro ⟨cause, hlaunch⟩
    unfold launch at hlaunch
    split at hlaunch
    · rename_i hnul
      obtain ⟨t, ht, hmark⟩ := List.any_eq_true.mp hnul
      exact .nul ht hmark
    split at hlaunch
    · rename_i other hnone
      refine .noDirectory fun inside hinside => ?_
      rw [hnone] at hinside
      nomatch hinside
    rename_i inside hinside
    split at hlaunch
    · rename_i other hnone
      cases hslash : program.contains '/' with
      | true =>
        refine .noProgram hinside hslash fun location contents hfound => ?_
        rw [resolveProgram_of_slash hslash, programAt_of_find hfound] at hnone
        nomatch hnone
      | false =>
        refine .notOnPath hinside hslash fun location hfound => ?_
        rw [hnone] at hfound
        nomatch hfound
    split at hlaunch
    · rename_i hlong
      obtain ⟨t, ht, hmark⟩ := List.any_eq_true.mp hlong
      exact .tooLong ht (of_decide_eq_true hmark)
    · nomatch hlaunch
  · intro hindered
    cases hlaunch : h.launch program directory arguments aftermath with
    | error cause => exact ⟨cause, rfl⟩
    | ok started =>
      obtain ⟨run, after⟩ := started
      exfalso
      obtain ⟨location, inside, hinside, hlocation, -, -⟩ := launch_eq_ok hlaunch
      obtain ⟨hnoNul, hshort⟩ := texts_of_launch hlaunch
      cases hindered with
      | nul ht hnul => exact Bool.noConfusion (hnul.symm.trans (hnoNul _ ht))
      | noDirectory hnone => exact hnone inside hinside
      | noProgram hother hslash hnone =>
        obtain rfl := Except.ok.inj (hother.symm.trans hinside)
        rw [resolveProgram_of_slash hslash] at hlocation
        obtain ⟨contents, hfound⟩ := find_of_programAt hlocation
        exact hnone location contents hfound
      | notOnPath hother hslash hnone =>
        obtain rfl := Except.ok.inj (hother.symm.trans hinside)
        exact hnone location hlocation
      | tooLong ht hlong => exact Nat.not_le_of_lt (hshort _ ht) hlong

theorem Sound.launch {h after : Host} (hs : h.Sound) {program directory : PathText}
    {arguments : List (List Char)} {run : Run}
    (hlaunch : h.launch program directory arguments = .ok (run, after)) : after.Sound := by
  obtain ⟨location, inside, hinside, _, _, rfl⟩ := launch_eq_ok hlaunch
  obtain ⟨_, hdirectory⟩ := Tree.enter_of_findDirectory hinside
  obtain ⟨hrooted, hkeeps⟩ := Effect.foldl_apply_rooted hs.rooted hdirectory run.effects
  exact ⟨hrooted, hkeeps _ hs.standing⟩

end Host

end BootMedia
