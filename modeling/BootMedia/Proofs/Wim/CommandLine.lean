import BootMedia.Proofs.Command.IndexText
import BootMedia.Proofs.Host.LexicalPath
import BootMedia.Proofs.Wim.Stages
import Mathlib

/-!
The command line of the archiver. Main statement: it tells the image by a path that means the same
wherever the archiver runs, and the number and the source by a text from which both can be read
back; neither begins like a switch, whatever the request says.
-/
namespace BootMedia

open PathText

theorem Request.image_ne_nil_of_validate {r : Request} (hvalid : r.validate = .ok ()) :
    r.image ≠ [] := by
  intro himage
  simp [validate, himage] at hvalid

namespace Archiver

variable {index other : UInt32} {src text : List Char} {directory : Location} {r : Request}

theorem imageArgument_eq (himage : r.image ≠ [])
    (hdirectory : ∀ name ∈ directory, PlainName name) :
    imageArgument directory r.image = lexicalForm directory r.image := by
  rw [imageArgument, absolute?_eq himage hdirectory, Option.getD_some]

section Source

theorem sourceArgument_eq (index : UInt32) (src : List Char) :
    sourceArgument index src = Nat.toDigits 10 index.toNat ++ '\\' :: src := by
  rw [sourceArgument, Nat.toString_eq_repr, Nat.toList_repr]

theorem isDigit_of_mem_toDigits {n : Nat} : ∀ c ∈ Nat.toDigits 10 n, c.isDigit = true :=
  (ImageIndex.decimal_toDigits n).2.1

theorem takeWhile_sourceArgument (index : UInt32) (src : List Char) :
    (sourceArgument index src).takeWhile Char.isDigit = Nat.toDigits 10 index.toNat := by
  rw [sourceArgument_eq, List.takeWhile_append_of_pos isDigit_of_mem_toDigits,
    List.takeWhile_cons_of_neg (by decide), List.append_nil]

theorem dropWhile_sourceArgument (index : UInt32) (src : List Char) :
    (sourceArgument index src).dropWhile Char.isDigit = '\\' :: src := by
  rw [sourceArgument_eq, List.dropWhile_append_of_pos isDigit_of_mem_toDigits,
    List.dropWhile_cons_of_neg (by decide)]

theorem toDigits_injective {m n : Nat} (h : Nat.toDigits 10 m = Nat.toDigits 10 n) : m = n := by
  have hvalue := (ImageIndex.decimal_toDigits n).2.2
  rw [← h, (ImageIndex.decimal_toDigits m).2.2] at hvalue
  exact hvalue

/-- The number and the source can be told from the argument, whatever digits and backslashes the
source has. -/
theorem sourceArgument_inj :
    sourceArgument index src = sourceArgument other text ↔ index = other ∧ src = text := by
  constructor
  · intro hsame
    have hdigits := congrArg (List.takeWhile Char.isDigit) hsame
    have hrest := congrArg (List.dropWhile Char.isDigit) hsame
    rw [takeWhile_sourceArgument, takeWhile_sourceArgument] at hdigits
    rw [dropWhile_sourceArgument, dropWhile_sourceArgument] at hrest
    exact ⟨UInt32.toNat_inj.mp (toDigits_injective hdigits), (List.cons.inj hrest).2⟩
  · rintro ⟨rfl, rfl⟩
    rfl

theorem exists_digit_sourceArgument (index : UInt32) (src : List Char) :
    ∃ c, c.isDigit = true ∧ (sourceArgument index src).head? = some c := by
  obtain ⟨c, rest, hdigits⟩ := List.exists_cons_of_ne_nil
    (ImageIndex.decimal_toDigits index.toNat).1
  refine ⟨c, isDigit_of_mem_toDigits c (hdigits ▸ List.mem_cons_self), ?_⟩
  rw [sourceArgument_eq, hdigits]
  rfl

end Source

/-- An argument that the archiver takes as a switch, or as the name of a list of names. -/
def LooksLikeSwitch (argument : List Char) : Prop :=
  argument.head? = some '-' ∨ argument.head? = some '@'

theorem not_looksLikeSwitch_of_isAbsolute {p : PathText} (hp : p.isAbsolute = true) :
    ¬ LooksLikeSwitch p := by
  have hhead : p.head? = some '/' := beq_iff_eq.mp hp
  simp [LooksLikeSwitch, hhead]

theorem not_looksLikeSwitch_sourceArgument (index : UInt32) (src : List Char) :
    ¬ LooksLikeSwitch (sourceArgument index src) := by
  obtain ⟨c, hdigit, hhead⟩ := exists_digit_sourceArgument index src
  rintro (hswitch | hswitch)
  · obtain rfl := Option.some.inj (hhead.symm.trans hswitch)
    exact absurd hdigit (by decide)
  · obtain rfl := Option.some.inj (hhead.symm.trans hswitch)
    exact absurd hdigit (by decide)

/-- Every program that a call launches gets the arguments of its request. -/
theorem arguments_of_launch (given : Option PathText) (expected : ExpectedOutput) (r : Request)
    (d : Desk) :
    ∃ started, ((extract (ArchiverSearch.locate given) expected r).run d).state.host.launches =
        d.host.launches ++ started ∧
      ∀ launch ∈ started, launch.arguments = arguments d.host.directory r := by
  have hhost := host_executable (ArchiverSearch.onlyLooks_locate given) d
  cases hfound : ((Desk.executable (ArchiverSearch.locate given)).run d).value with
  | none =>
    refine ⟨[], ?_, List.forall_mem_nil _⟩
    rw [(run_extract_of_none expected r hfound).2, hhost, List.append_nil]
  | some program =>
    have hends := ends_work Run.leave program expected r d.host
    rw [(run_extract_of_some expected r hfound).2, hhost]
    rcases hends.launches with hnone | ⟨location, inside, -, -, hone⟩
    · exact ⟨[], by rw [hnone, List.append_nil], List.forall_mem_nil _⟩
    · exact ⟨_, hone, List.forall_mem_singleton.mpr rfl⟩

/-- A request that is in order is told to the archiver by the lexical form of its image, which
leads from every directory to what the image leads to from the current one, and by its number in
decimal and its source as it is, which can both be told from that argument. Whatever the texts of
the request are, neither of the two looks like a switch, and whatever program a call launches, in
whatever directory, gets these arguments. -/
theorem arguments_faithful {r : Request} (hvalid : r.validate = .ok ()) {directory : Location}
    (hdirectory : ∀ name ∈ directory, PlainName name) :
    let image := lexicalForm directory r.image
    let source := Nat.toDigits 10 r.index.toNat ++ '\\' :: r.src
    (arguments directory r = ["-y".toList, "e".toList, image, source] ∧
      ImageIndex.Decimal (Nat.toDigits 10 r.index.toNat) r.index.toNat) ∧
    (image.isAbsolute = true ∧ ∀ t : Tree, t.Rooted →
      t.findDirectory [] directory.path = .ok directory → image.Usable →
      ∀ place node, t.find directory r.image = .ok (place, node) →
        ∀ inside, t.find inside image = .ok (place, node)) ∧
    (¬ LooksLikeSwitch image ∧ ¬ LooksLikeSwitch source) ∧
    (∀ (other : Request) (elsewhere : Location),
      (arguments elsewhere other).getLast? = some source ↔
        other.index = r.index ∧ other.src = r.src) ∧
    ∀ (given : Option PathText) (expected : ExpectedOutput) (d : Desk),
      d.host.directory = directory →
      ∃ started, ((extract (ArchiverSearch.locate given) expected r).run d).state.host.launches =
          d.host.launches ++ started ∧
        ∀ launch ∈ started, launch.arguments = ["-y".toList, "e".toList, image, source] := by
  intro image source
  have himage : imageArgument directory r.image = image :=
    imageArgument_eq (Request.image_ne_nil_of_validate hvalid) hdirectory
  have hsource : sourceArgument r.index r.src = source := sourceArgument_eq r.index r.src
  have harguments : arguments directory r = ["-y".toList, "e".toList, image, source] := by
    rw [arguments, himage, hsource]
  have habsolute : image.isAbsolute = true := isAbsolute_lexicalForm directory r.image
  refine ⟨⟨harguments, ImageIndex.decimal_toDigits _⟩, ⟨habsolute, ?sameFile⟩,
    ⟨not_looksLikeSwitch_of_isAbsolute habsolute, ?noSwitch⟩, ?readBack, ?launched⟩
  case sameFile =>
    intro t ht hcurrent husable place node hfind inside
    exact ht.find_lexicalForm hdirectory hcurrent husable hfind inside
  case noSwitch =>
    rw [← hsource]
    exact not_looksLikeSwitch_sourceArgument r.index r.src
  case readBack =>
    intro other elsewhere
    have hlast : (arguments elsewhere other).getLast? =
        some (sourceArgument other.index other.src) := rfl
    rw [hlast, Option.some_inj, ← hsource, sourceArgument_inj]
  case launched =>
    rintro given expected d rfl
    rw [← harguments]
    exact arguments_of_launch given expected r d

/-- An image that begins like a switch, with a dot and a doubled slash on its way, and a source
of digits and backslashes. -/
theorem arguments_faithful_dashes :
    let outer := (Tree.empty.put [['w']] .directory).put ["-o".toList, ['w']] .directory
    let place : Location := ["@i.wim".toList, "-o".toList, ['w']]
    let tree := outer.put place (.file [7] false)
    let r : Request := ⟨"-o/.//@i.wim".toList, 10, "7\\-y".toList, "x".toList⟩
    r.validate = .ok () ∧
      arguments [['w']] r =
        ["-y".toList, "e".toList, "/w/-o/@i.wim".toList, "10\\7\\-y".toList] ∧
      ∀ inside, tree.find inside "/w/-o/@i.wim".toList = .ok (place, .file [7] false) := by
  intro outer place tree r
  have hvalid : r.validate = .ok () := by decide
  have hplain : ∀ name ∈ [['w']], PlainName name :=
    List.forall_mem_singleton.mpr ⟨by decide, by decide⟩
  have hform : lexicalForm [['w']] r.image = "/w/-o/@i.wim".toList := by decide
  have houter : outer.Rooted := (Tree.rooted_empty.put rfl fun _ => rfl).put rfl fun _ => rfl
  have htree : tree.Rooted := houter.put rfl nofun
  obtain ⟨⟨harguments, -⟩, ⟨-, hsame⟩, -⟩ := arguments_faithful hvalid hplain
  refine ⟨hvalid, harguments.trans (by decide), fun inside => ?_⟩
  rw [← hform]
  exact hsame tree htree (by decide +kernel) ⟨by decide, by decide, by decide⟩ place _
    (by decide +kernel) inside

end Archiver

end BootMedia
