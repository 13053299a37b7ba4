import Rulesheet.Proofs.Files.Addressing
import Rulesheet.Proofs.Files.Editing
import Rulesheet.Proofs.Registry
import Rulesheet.Proofs.Text.Utf8

/- What a store holds after any history of its directory. The listed names are the stems of the
   files in it that bear the suffix and are not reserved, and each is loaded from its own file. A
   store lists nothing when it is not there, and when the path of one of its entries is longer than
   the system takes. If no directory can have its path at all, every question about it ends in an
   error. -/
namespace Rulesheet

def Content.Spells (c : Content) (s : String) : Prop :=
  match c with
  | .text v => v = s
  | .bytes b => s.toUTF8.toList = b
  | .workbook _ => False

theorem Content.decode_eq_ok {c : Content} {s : String} : c.decode = .ok s ↔ c.Spells s := by
  cases c with
  | text v => simp [Content.decode, Content.Spells]
  | bytes b => exact Utf8.decode_eq_ok
  | workbook sheets => simp [Content.decode, Content.Spells]

namespace Registry

variable {r : Registry} {t : FileTree} {n entry : String}

def Fits (r : Registry) (t : FileTree) : Prop :=
  ∀ entry, (t.node? (r.store t ++ [entry])).isSome →
    Utf8.nameSize (r.entryPath entry).text ≤ FileTree.maxPath

/-- A store lists what it can load, and loads what it lists. -/
structure Agrees (r : Registry) (t : FileTree) : Prop where
  listed : ∀ n, n ∈ r.names t ↔ (∃ c, t.node? (r.place t n) = some (.file c)) ∧
    Path.Splits (n ++ r.suffix) n r.suffix ∧ ∀ name ∈ r.reserved, Text.lower name ≠ Text.lower n
  proper : Path.IsSuffix r.suffix → ∀ n, n ∈ r.names t ↔
    (∃ c, t.node? (r.place t n) = some (.file c)) ∧ n ≠ "" ∧
      ∀ name ∈ r.reserved, Text.lower name ≠ Text.lower n
  loaded : ∀ n ∈ r.names t, ∃ c, t.node? (r.place t n) = some (.file c) ∧
    t.walk (r.path n) = .ok (r.place t n) ∧
    ∀ d, r.load? t n = some d ↔ ∃ s, c.Spells s ∧
      d = .parse (String.ofList (Text.unifyNewlines s.toList)) n

theorem isReserved_eq_false :
    r.isReserved n = false ↔ ∀ name ∈ r.reserved, Text.lower name ≠ Text.lower n := by
  rw [isReserved, ← Bool.not_eq_true, List.contains_iff_mem, List.mem_map]
  simp only [not_exists, not_and, ne_eq]

theorem walk_entry (there : t.isDirectory? r.directory = .ok true) (stored : Path.Storable entry)
    (size : Utf8.nameSize (r.entryPath entry).text ≤ FileTree.maxPath) :
    t.walk (r.entryPath entry) = .ok (r.store t ++ [entry]) := by
  obtain ⟨valid, named, short⟩ := stored
  obtain ⟨l, walked, _⟩ := FileTree.isDirectory?_eq_true.mp there
  have usable := (FileTree.walk_eq_ok.mp walked).1.below named size
  have below := FileTree.walk_below there usable (.inr short)
  rw [← Location.step_into valid.2.2.1, ← resolve_entry]
  exact below

theorem lookup_entry (there : t.isDirectory? r.directory = .ok true)
    (stored : Path.Storable entry)
    (size : Utf8.nameSize (r.entryPath entry).text ≤ FileTree.maxPath) {node : Node} :
    t.lookup (r.entryPath entry) = .ok node ↔ t.node? (r.store t ++ [entry]) = some node := by
  rw [FileTree.lookup_eq_ok, walk_entry there stored size]
  simp only [Except.ok.injEq, exists_eq_left']

/-- There are answers exactly if every path in the store fits. -/
theorem answers_iff (sound : t.Sound) (there : t.isDirectory? r.directory = .ok true) :
    r.Answers t ↔ r.Fits t := by
  obtain ⟨l, walked, _⟩ := FileTree.isDirectory?_eq_true.mp there
  have given := (FileTree.walk_eq_ok.mp walked).1
  apply forall_congr'
  intro entry
  apply imp_congr_right
  intro present
  have stored := sound _ present entry (by simp)
  constructor
  · rintro ⟨here, answer⟩
    by_contra long
    have named : Addressable (r.entryPath entry).text := by
      apply Path.addressable_text.mpr
      have parts := Path.addressable_text.mp given.1
      have names := List.forall_mem_append.mpr
        ⟨parts.2, List.forall_mem_singleton.mpr stored.2.1⟩
      exact ⟨parts.1, names⟩
    have failed : t.walk (r.entryPath entry) = .error (.fault .nameTooLong (r.entryPath entry)) := by
      rw [FileTree.walk_of_addressable named, if_pos (Nat.lt_of_not_le long)]
    rw [FileTree.isFile?, FileTree.test_eq_error.mpr ⟨failed, _, rfl⟩] at answer
    cases answer
  · intro size
    obtain ⟨node, at_entry⟩ := Option.isSome_iff_exists.mp present
    have found := (lookup_entry there stored size).mpr at_entry
    refine ⟨FileTree.Node.isFile node, ?_⟩
    rw [FileTree.isFile?, FileTree.test, found]

theorem mem_names_iff (sound : t.Sound) (there : t.isDirectory? r.directory = .ok true)
    (fits : r.Fits t) :
    n ∈ r.names t ↔ (∃ c, t.node? (r.place t n) = some (.file c)) ∧
      Path.Splits (n ++ r.suffix) n r.suffix ∧
        ∀ name ∈ r.reserved, Text.lower name ≠ Text.lower n := by
  rw [mem_names, ← isReserved_eq_false]
  constructor
  · rintro ⟨_, _, entry, c, name, found, present⟩
    obtain ⟨split, free⟩ := nameOf?_eq_some.mp name
    obtain rfl := Path.splitName_append split
    have stored := sound _ present (n ++ r.suffix) (by simp)
    exact ⟨⟨c, (lookup_entry there stored (fits _ present)).mp found⟩,
      Path.splitName_eq_iff.mp split, free⟩
  · rintro ⟨⟨c, file⟩, split, free⟩
    have at_entry : t.node? (r.store t ++ [n ++ r.suffix]) = some (.file c) := file
    have present := Option.isSome_of_eq_some at_entry
    have stored := sound _ present (n ++ r.suffix) (by simp)
    exact ⟨there, (answers_iff sound there).mpr fits, n ++ r.suffix, c,
      nameOf?_eq_some.mpr ⟨Path.splitName_eq_iff.mpr split, free⟩,
      (lookup_entry there stored (fits _ present)).mpr file, present⟩

theorem load?_eq_some {c : Content} {d : Definition} (found : t.lookup (r.path n) = .ok (.file c))
    (stem : (r.path n).stem = n) :
    r.load? t n = some d ↔ ∃ s, c.Spells s ∧
      d = .parse (String.ofList (Text.unifyNewlines s.toList)) n := by
  have loads : r.load? t n = some d ↔ r.load t n = .ok d := by
    unfold load?
    cases r.load t n <;> simp [Except.toOption]
  rw [loads, load_eq_ok, stem]
  simp only [FileTree.readText_eq_ok, found, Except.ok.injEq, Node.file.injEq, exists_and_left,
    exists_eq_left', Content.decode_eq_ok]
  constructor
  · rintro ⟨source, ⟨s, spells, rfl⟩, rfl⟩
    exact ⟨s, spells, rfl⟩
  · rintro ⟨s, spells, rfl⟩
    exact ⟨_, ⟨s, spells, rfl⟩, rfl⟩

theorem stem_entry (directory : Path) (split : Path.Splits (n ++ r.suffix) n r.suffix) :
    (directory ++ (⟨"", [n ++ r.suffix]⟩ : Path)).stem = n := by
  have last : (directory ++ (⟨"", [n ++ r.suffix]⟩ : Path)).name = n ++ r.suffix := by
    change (directory.segments ++ [n ++ r.suffix]).getLast?.getD "" = _
    rw [List.getLast?_concat, Option.getD_some]
  rw [Path.stem, last, Path.splitName_eq_iff.mpr split]

theorem agrees (sound : t.Sound) (there : t.isDirectory? r.directory = .ok true)
    (fits : r.Fits t) : r.Agrees t where
  listed _ := mem_names_iff sound there fits
  proper suffix n := by
    rw [mem_names_iff sound there fits, Path.splits_append_iff suffix]
  loaded := by
    intro n listed
    obtain ⟨⟨c, file⟩, split, _⟩ := (mem_names_iff sound there fits).mp listed
    have at_entry : t.node? (r.store t ++ [n ++ r.suffix]) = some (.file c) := file
    have present := Option.isSome_of_eq_some at_entry
    have stored := sound _ present (n ++ r.suffix) (by simp)
    have path := path_of_mem_names sound.named listed
    have found := (lookup_entry there stored (fits _ present)).mpr at_entry
    refine ⟨c, file, ?_, ?_⟩
    · rw [path]
      exact walk_entry there stored (fits _ present)
    · intro d
      exact load?_eq_some (path ▸ found) (path ▸ stem_entry r.directory split)

theorem nameSize_entry (filled : r.directory.segments ≠ []) :
    Utf8.nameSize (r.entryPath entry).text =
      Utf8.nameSize r.directory.text + 1 + Utf8.nameSize entry := by
  have slash : Utf8.nameSize "/" = 1 := by decide
  change Utf8.nameSize (Path.mk r.directory.root (r.directory.segments ++ [entry])).text = _
  rw [FileTree.text_below fun bare => filled bare.2, if_neg filled, Utf8.nameSize_append,
    Utf8.nameSize_append, slash]

def roundabout : Registry := ⟨⟨"", Path.detour "macros" 408⟩, ".md", []⟩

theorem roundabout_fits_iff {t : FileTree} (home : t.workingDirectory = ["home"])
    (at_home : t.node? ["home"] = some .directory)
    (inside : t.node? ["home", "macros"] = some .directory) :
    t.isDirectory? roundabout.directory = .ok true ∧ roundabout.store t = ["home", "macros"] ∧
    (roundabout.Fits t ↔
      ∀ entry, (t.node? ["home", "macros", entry]).isSome → Utf8.nameSize entry ≤ 8) := by
  have walked : t.walk roundabout.directory = .ok (t.workingDirectory ++ ["macros"]) :=
    FileTree.walk_detour (by decide) (by decide) (by decide) (home ▸ at_home) (home ▸ inside)
      (by decide)
  rw [home] at walked
  have store : roundabout.store t = ["home", "macros"] := (FileTree.walk_eq_resolve walked).symm
  refine ⟨FileTree.isDirectory?_eq_true.mpr ⟨_, walked, inside⟩, store, ?_⟩
  have filled : roundabout.directory.segments ≠ [] := @Path.detour_ne_nil "macros" 408
  have size : Utf8.nameSize roundabout.directory.text = 4086 :=
    (@Path.nameSize_detour "macros" 408).trans (by decide)
  have room : FileTree.maxPath = 4095 := rfl
  unfold Fits
  rw [store]
  apply forall_congr'
  intro entry
  apply imp_congr_right
  intro _
  rw [nameSize_entry filled, size]
  omega

end Registry
end Rulesheet
