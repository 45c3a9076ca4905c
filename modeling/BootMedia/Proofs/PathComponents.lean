import BootMedia.Proofs.PathPieces
import Mathlib

/-!
The components of a path and of its parent. The parent is found by a scan of the text from its
end, past slashes and lone dots; the components are read from the start. Main statement: a path
has a parent unless it is empty or the root, and the parent is a beginning of the path that has
all of its components but the last one.
-/
namespace BootMedia.PathText

variable {p q front : PathText} {name : List Char}

section Solid

theorem solidPieces_append_slash (p q : PathText) :
    solidPieces (p ++ '/' :: q) = p.solidPieces ++ q.solidPieces := by
  simp only [solidPieces, fields_eq_splitOn, List.splitOn_append_cons_self, List.filter_append]

theorem solidPieces_concat_slash (p : PathText) : solidPieces (p ++ ['/']) = p.solidPieces :=
  (solidPieces_append_slash p []).trans (List.append_nil _)

theorem solidPieces_cons_slash (p : PathText) : solidPieces ('/' :: p) = p.solidPieces :=
  solidPieces_append_slash [] p

theorem solidPieces_singleton (hslash : '/' ∉ name) (hne : name ≠ []) (hdot : name ≠ ['.']) :
    solidPieces name = [name] := by
  rw [solidPieces, fields_eq_splitOn, List.splitOn_eq_singleton hslash]
  simp [hne, hdot]

theorem solidPieces_eq_filter (p : PathText) :
    p.solidPieces = p.pieces.filter fun piece => piece != ['.'] := by
  rw [solidPieces, pieces, List.filter_filter]
  congr 1
  funext piece
  cases piece <;> simp

/-- The component at the front, which is not one of the pieces. -/
def lead (p : PathText) : List Component :=
  if p.isAbsolute then [.root] else if p.startsHere then [.here] else []

/-- Behind the one at the front, the components are the pieces that say something. -/
theorem components_eq (p : PathText) :
    p.components = p.lead ++ p.solidPieces.filterMap Component.ofPiece := by
  rw [components, lead, solidPieces, List.filterMap_filter]
  congr 2
  funext piece
  fun_cases Component.ofPiece piece <;> simp_all

theorem ofPiece_eq_some (hne : name ≠ []) (hdot : name ≠ ['.']) :
    ∃ c, Component.ofPiece name = some c := by
  fun_cases Component.ofPiece name with
  | case1 => exact absurd rfl hne
  | case2 => exact absurd rfl hdot
  | case3 => exact ⟨.up, rfl⟩
  | case4 => exact ⟨.name name, rfl⟩

theorem ofPiece_of_plain (hne : name ≠ []) (hdot : name ≠ ['.']) (hup : name ≠ ['.', '.']) :
    Component.ofPiece name = some (.name name) := by
  fun_cases Component.ofPiece name with
  | case1 => exact absurd rfl hne
  | case2 => exact absurd rfl hdot
  | case3 => exact absurd rfl hup
  | case4 => rfl

theorem getLast?_components {pieces : List (List Char)} (hpieces : p.solidPieces = pieces ++ [name])
    (hup : name ≠ ['.', '.']) : p.components.getLast? = some (.name name) := by
  have hsolid : name ∈ p.solidPieces := hpieces ▸ List.mem_append_right pieces List.mem_cons_self
  have hsays := (List.mem_filter.mp hsolid).2
  have hname : Component.ofPiece name = some (.name name) :=
    ofPiece_of_plain (fun hnil => by simp [hnil] at hsays) (fun hdot => by simp [hdot] at hsays) hup
  rw [components_eq, hpieces, List.filterMap_append, ← List.append_assoc]
  simp [hname]

end Solid

section Trim

def trimEnd (s : PathText) : PathText := (trimBackwards s.reverse).reverse

theorem solidPieces_trimEnd (s : PathText) : s.trimEnd.solidPieces = s.solidPieces := by
  suffices hback : ∀ t, solidPieces (trimBackwards t).reverse = solidPieces t.reverse by
    rw [trimEnd, hback, List.reverse_reverse]
  intro t
  fun_induction trimBackwards t with
  | case1 rest ih => rw [ih, List.reverse_cons, solidPieces_concat_slash]
  | case2 => rfl
  | case3 rest ih =>
    have hsplit : ('.' :: '/' :: rest).reverse = rest.reverse ++ '/' :: ['.'] := by simp
    rw [ih, hsplit, solidPieces_append_slash]
    exact (List.append_nil _).symm
  | case4 => rfl

theorem trimEnd_cut (s : PathText) :
    s.trimEnd = [] ∨ s.trimEnd ++ ['/'] <+: s ++ ['/'] := by
  suffices hback : ∀ t, trimBackwards t = [] ∨ '/' :: trimBackwards t <:+ '/' :: t by
    refine (hback s.reverse).imp (fun hnil => ?_) fun hcut => ?_
    · rw [trimEnd, hnil, List.reverse_nil]
    · have hprefix := List.reverse_prefix.mpr hcut
      rwa [List.reverse_cons, List.reverse_cons, List.reverse_reverse] at hprefix
  intro t
  fun_induction trimBackwards t with
  | case1 rest ih => exact ih.imp_right fun hcut => hcut.trans (List.suffix_cons '/' _)
  | case2 => exact Or.inl rfl
  | case3 rest ih =>
    exact ih.imp_right fun hcut => hcut.trans (List.suffix_append ['/', '.'] ('/' :: rest))
  | case4 rest => exact Or.inr (List.suffix_refl _)

theorem isPrefix_trimEnd (s : PathText) : s.trimEnd <+: s := by
  rcases s.trimEnd_cut with hnil | hcut
  · exact hnil ▸ List.nil_prefix
  · rcases List.prefix_concat_iff.mp hcut with hall | hpart
    · exact ⟨[], (List.append_nil _).trans (List.append_cancel_right hall)⟩
    · exact (List.prefix_append _ _).trans hpart

theorem rtakeWhile_trimEnd {s : PathText} (hs : s.trimEnd ≠ []) :
    s.trimEnd.rtakeWhile (· != '/') ≠ [] ∧ s.trimEnd.rtakeWhile (· != '/') ≠ ['.'] := by
  suffices hback : ∀ t, trimBackwards t ≠ [] → (trimBackwards t).takeWhile (· != '/') ≠ [] ∧
      (trimBackwards t).takeWhile (· != '/') ≠ ['.'] by
    have hlast := hback s.reverse (by simpa [trimEnd] using hs)
    simpa [trimEnd, List.rtakeWhile, List.reverse_eq_iff] using hlast
  intro t ht
  fun_induction trimBackwards t with
  | case1 rest ih => exact ih ht
  | case2 => exact absurd rfl ht
  | case3 rest ih => exact ih ht
  | case4 t hslash hdot hboth =>
    obtain ⟨c, rest, rfl⟩ := List.exists_cons_of_ne_nil ht
    have hc : c ≠ '/' := fun hc => hslash rest (hc ▸ rfl)
    simp only [List.takeWhile_cons, bne_iff_ne, hc, ne_eq, not_false_eq_true, if_true]
    refine ⟨List.cons_ne_nil _ _, fun hlone => ?_⟩
    obtain ⟨rfl, hrest⟩ := List.cons.inj hlone
    cases rest with
    | nil => exact hdot rfl
    | cons d rest =>
      have hd : d = '/' := by
        by_contra hd
        simp [hd] at hrest
      exact hboth rest (hd ▸ rfl)

end Trim

section Parent

/-- The text before the last piece that says something, as the scan finds it. -/
def beforeLast (s : PathText) : PathText := s.trimEnd.rdropWhile (· != '/')

theorem beforeLast_cases (s : PathText) :
    s.beforeLast = [] ∨ ∃ outer, s.beforeLast = outer ++ ['/'] := by
  by_cases hnil : s.beforeLast = []
  · exact Or.inl hnil
  · have hstop : s.beforeLast.getLast hnil = '/' := by
      have hlast := List.rdropWhile_last_not (· != '/') s.trimEnd hnil
      rwa [bne_iff_ne, ne_eq, not_not] at hlast
    exact Or.inr ⟨_, hstop ▸ (List.dropLast_append_getLast hnil).symm⟩

theorem isPrefix_beforeLast (s : PathText) : s.beforeLast <+: s :=
  (List.rdropWhile_prefix _ s.trimEnd).trans s.isPrefix_trimEnd

theorem solidPieces_beforeLast {s : PathText} (hs : s.trimEnd ≠ []) :
    ∃ name, s.solidPieces = s.beforeLast.solidPieces ++ [name] ∧ name ≠ [] ∧ name ≠ ['.'] := by
  let name := s.trimEnd.rtakeWhile (· != '/')
  have hsplit : s.trimEnd = s.beforeLast ++ name := List.rdropWhile_append_rtakeWhile.symm
  have hslash : '/' ∉ name := fun hmem => by simpa using List.mem_rtakeWhile_imp hmem
  obtain ⟨hne, hdot⟩ := rtakeWhile_trimEnd hs
  refine ⟨name, ?_, hne, hdot⟩
  rw [← solidPieces_trimEnd, hsplit]
  rcases s.beforeLast_cases with hnil | ⟨outer, houter⟩
  · rw [hnil]
    exact solidPieces_singleton hslash hne hdot
  · rw [houter, List.append_assoc, List.singleton_append, solidPieces_append_slash,
      solidPieces_concat_slash, solidPieces_singleton hslash hne hdot]

theorem trimEnd_beforeLast (s : PathText) :
    s.beforeLast.trimEnd = [] ∨ s.beforeLast.trimEnd ++ ['/'] <+: s := by
  rcases s.beforeLast_cases with hnil | ⟨outer, houter⟩
  · rw [hnil]
    exact Or.inl rfl
  · have hsame : s.beforeLast.trimEnd = outer.trimEnd := by
      rw [houter, trimEnd, List.reverse_concat]
      rfl
    rw [hsame]
    refine (trimEnd_cut outer).imp_right fun hcut => hcut.trans ?_
    exact houter ▸ s.isPrefix_beforeLast

def headText (p : PathText) : PathText := p.take p.headLength

def bodyText (p : PathText) : PathText := p.drop p.headLength

/-- A path starts at the root, or with a dot that stands alone, or with neither. -/
theorem head_cases (p : PathText) :
    (∃ s, p = '/' :: s) ∨ p = ['.'] ∨ (∃ s, p = '.' :: '/' :: s) ∨
      p.isAbsolute = false ∧ p.startsHere = false := by
  fun_cases startsHere p with
  | case1 => exact Or.inr (Or.inl rfl)
  | case2 s => exact Or.inr (Or.inr (Or.inl ⟨s, rfl⟩))
  | case3 p hdot hslash =>
    cases p with
    | nil => exact Or.inr (Or.inr (Or.inr ⟨rfl, rfl⟩))
    | cons c s =>
      by_cases hc : c = '/'
      · exact Or.inl ⟨s, hc ▸ rfl⟩
      · exact Or.inr (Or.inr (Or.inr ⟨by simpa [isAbsolute] using hc, rfl⟩))

theorem solidPieces_bodyText (p : PathText) : p.bodyText.solidPieces = p.solidPieces := by
  rcases p.head_cases with ⟨s, rfl⟩ | rfl | ⟨s, rfl⟩ | ⟨habsolute, hhere⟩
  · exact (solidPieces_cons_slash s).symm
  · rfl
  · exact (solidPieces_cons_slash s).trans (solidPieces_append_slash ['.'] s).symm
  · rw [bodyText, headLength, habsolute, hhere]
    rfl

/-- A text that is cut off behind the front at a slash has the same front. -/
theorem headText_append {inner : PathText}
    (hinner : inner = [] ∨ inner ++ ['/'] <+: p.bodyText) :
    solidPieces (p.headText ++ inner) = inner.solidPieces ∧
      lead (p.headText ++ inner) = p.lead := by
  rcases p.head_cases with ⟨s, rfl⟩ | rfl | ⟨s, rfl⟩ | ⟨habsolute, hhere⟩
  · exact ⟨solidPieces_cons_slash inner, rfl⟩
  · have hnil : inner = [] := by
      refine hinner.resolve_right fun hprefix => ?_
      exact absurd (List.prefix_nil.mp hprefix) (by simp)
    subst hnil
    exact ⟨rfl, rfl⟩
  · rcases hinner with rfl | hprefix
    · exact ⟨rfl, rfl⟩
    · cases inner with
      | nil => exact ⟨rfl, rfl⟩
      | cons c rest =>
        obtain ⟨rfl, -⟩ := List.cons_prefix_cons.mp hprefix
        exact ⟨(solidPieces_append_slash ['.'] rest).trans (solidPieces_cons_slash rest).symm, rfl⟩
  · have hhead : p.headText = [] := by rw [headText, headLength, habsolute, hhere]; rfl
    have hbody : p.bodyText = p := by rw [bodyText, headLength, habsolute, hhere]; rfl
    have hlead : p.lead = [] := by rw [lead, habsolute, hhere]; rfl
    rw [hbody] at hinner
    rw [hhead, hlead, List.nil_append]
    refine ⟨rfl, ?_⟩
    rcases hinner with rfl | ⟨rest, hrest⟩
    · rfl
    -- What the inner text starts with, the path starts with as well.
    · rcases head_cases inner with ⟨s, rfl⟩ | rfl | ⟨s, rfl⟩ | ⟨hrelative, helse⟩
      · subst hrest
        nomatch habsolute
      · subst hrest
        nomatch hhere
      · subst hrest
        nomatch hhere
      · rw [lead, hrelative, helse]
        rfl

/-- The scan, read forwards. Where a last piece is found, the parent ends before it. Otherwise the
path is its front alone, and only a leading dot has a parent, which is empty. -/
theorem parent?_eq (p : PathText) :
    p.parent? = if p.bodyText.trimEnd = [] then
        if p.isAbsolute then none else if p.startsHere then some [] else none
      else some (p.headText ++ p.bodyText.beforeLast.trimEnd) := by
  rcases hbody : trimBackwards (p.drop p.headLength).reverse with _ | ⟨c, body⟩
  · rw [if_pos (by simp [trimEnd, bodyText, hbody])]
    simp only [parent?, hbody]
  · rw [if_neg (by simp [trimEnd, bodyText, hbody])]
    simp [parent?, headText, trimEnd, beforeLast, bodyText, List.rdropWhile, hbody]

theorem solidPieces_of_trimEnd (h : p.bodyText.trimEnd = []) : p.solidPieces = [] := by
  rw [← solidPieces_bodyText, ← solidPieces_trimEnd, h]
  rfl

theorem components_of_parent?_none (h : p.parent? = none) :
    p.components = [] ∨ p.components = [.root] := by
  rw [parent?_eq] at h
  split at h
  · rename_i hbody
    rw [components_eq, solidPieces_of_trimEnd hbody, List.filterMap_nil, List.append_nil, lead]
    split at h
    · rename_i habsolute
      exact Or.inr (if_pos habsolute)
    · rename_i hrelative
      split at h
      · nomatch h
      · rename_i helse
        exact Or.inl (by rw [if_neg hrelative, if_neg helse])
  · nomatch h

/-- The parent of a path is a beginning of it, and has its components without the last one. -/
theorem components_of_parent?_some (h : p.parent? = some q) :
    q <+: p ∧ ∃ last, p.components = q.components ++ [last] := by
  rw [parent?_eq] at h
  split at h
  · rename_i hbody
    split at h
    · nomatch h
    · rename_i hrelative
      split at h
      · rename_i hhere
        cases h
        refine ⟨List.nil_prefix, .here, ?_⟩
        rw [components_eq, solidPieces_of_trimEnd hbody, lead, if_neg hrelative, if_pos hhere]
        rfl
      · nomatch h
  · rename_i hbody
    cases h
    obtain ⟨name, hname, hne, hdot⟩ := solidPieces_beforeLast hbody
    obtain ⟨last, hlast⟩ := ofPiece_eq_some hne hdot
    obtain ⟨hpieces, hlead⟩ := headText_append p.bodyText.trimEnd_beforeLast
    constructor
    · have hinner := (isPrefix_trimEnd _).trans p.bodyText.isPrefix_beforeLast
      have hwhole : p.headText ++ p.bodyText = p := List.take_append_drop _ p
      have hprefix := (List.prefix_append_right_inj p.headText).mpr hinner
      rwa [hwhole] at hprefix
    · refine ⟨last, ?_⟩
      rw [components_eq, components_eq, hlead, hpieces, solidPieces_trimEnd,
        ← solidPieces_bodyText, hname, List.filterMap_append, ← List.append_assoc]
      simp [hlast]

/-- Slashes and lone dots around the last component say nothing. -/
example : parent? "./a//.././b/.//".toList = some "./a//..".toList := by decide

end Parent

section Steps

def dropHere : List Component → List Component
  | .here :: rest => rest
  | cs => cs

/-- The components of a path, where a leading dot counts as nothing. -/
def steps (p : PathText) : List Component := dropHere p.components

theorem dropHere_concat (cs : List Component) (name : List Char) :
    dropHere (cs ++ [.name name]) = dropHere cs ++ [.name name] := by
  fun_cases dropHere cs with
  | case1 rest => rfl
  | case2 cs hother =>
    cases cs with
    | nil => rfl
    | cons c rest =>
      cases c with
      | here => exact absurd rfl (hother rest)
      | root | up | name => rfl

theorem dropHere_of_not_mem {cs : List Component} (h : .here ∉ cs) : dropHere cs = cs := by
  fun_cases dropHere cs with
  | case1 rest => exact absurd List.mem_cons_self h
  | case2 => rfl

theorem ofPiece_ne_front {c : Component} {piece : List Char}
    (h : Component.ofPiece piece = some c) : c ≠ .root ∧ c ≠ .here := by
  unfold Component.ofPiece at h
  split at h
  · nomatch h
  · nomatch h
  · cases h
    exact ⟨nofun, nofun⟩
  · cases h
    exact ⟨nofun, nofun⟩

theorem front_not_mem (pieces : List (List Char)) :
    .root ∉ pieces.filterMap Component.ofPiece ∧ .here ∉ pieces.filterMap Component.ofPiece := by
  constructor
  · intro hroot
    obtain ⟨piece, -, hpiece⟩ := List.mem_filterMap.mp hroot
    exact (ofPiece_ne_front hpiece).1 rfl
  · intro hhere
    obtain ⟨piece, -, hpiece⟩ := List.mem_filterMap.mp hhere
    exact (ofPiece_ne_front hpiece).2 rfl

theorem steps_eq (p : PathText) :
    p.steps = (if p.isAbsolute then [.root] else []) ++
      p.solidPieces.filterMap Component.ofPiece := by
  rw [steps, components_eq, lead]
  split
  · rfl
  · split
    · rfl
    · exact dropHere_of_not_mem (front_not_mem p.solidPieces).2

theorem isAbsolute_iff : p.isAbsolute = true ↔ .root ∈ p.steps := by
  have hpieces := (front_not_mem p.solidPieces).1
  by_cases habsolute : p.isAbsolute = true
  · simp [steps_eq, habsolute]
  · simp [steps_eq, habsolute, hpieces]

def Component.piece? : Component → Option (List Char)
  | .root | .here => none
  | .up => some ['.', '.']
  | .name text => some text

theorem filterMap_piece?_steps (p : PathText) :
    p.steps.filterMap Component.piece? = p.solidPieces := by
  have hback : ∀ piece ∈ p.solidPieces,
      (Component.ofPiece piece).bind Component.piece? = some piece := by
    intro piece hpiece
    have hsolid := (List.mem_filter.mp hpiece).2
    fun_cases Component.ofPiece piece with
    | case1 => nomatch hsolid
    | case2 => nomatch hsolid
    | case3 => rfl
    | case4 => rfl
  rw [steps_eq, List.filterMap_append, List.filterMap_filterMap, List.filterMap_congr hback,
    List.filterMap_some]
  split <;> rfl

theorem of_steps_concat (h : q.steps ++ [.name name] = p.steps) :
    q.isAbsolute = p.isAbsolute ∧ p.solidPieces = q.solidPieces ++ [name] := by
  constructor
  · rw [Bool.eq_iff_iff, isAbsolute_iff, isAbsolute_iff, ← h]
    simp
  · rw [← filterMap_piece?_steps, ← filterMap_piece?_steps, ← h, List.filterMap_append]
    rfl

end Steps

end BootMedia.PathText
