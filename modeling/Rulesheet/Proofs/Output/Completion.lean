import Rulesheet.Proofs.Files.Addressing
import Rulesheet.Proofs.Files.Placing
import Rulesheet.Proofs.Output

/- When a writing comes to its end. The output directory can be made, every name of a success is
   one that a file system takes, and the documents that are not refused have bytes and places that
   fit: on the tree as it is found, beside each other and beside the output directory. The order of
   the documents does not matter to that. -/
namespace Rulesheet.Writing

variable {home : Location} {directory : Path} {w : Writing} {r : MacroResult}

def places (home : Location) (directory : Path) (rs : List MacroResult) : List Location :=
  (rs.filter fun r => !isAstray home directory r).map (target home directory)

theorem places_of_astray (astray : isAstray home directory r = true) (rs : List MacroResult) :
    places home directory (r :: rs) = places home directory rs := by
  rw [places, List.filter_cons_of_neg (by simp [astray]), places]

theorem places_of_inside (inside : isAstray home directory r = false) (rs : List MacroResult) :
    places home directory (r :: rs) = target home directory r :: places home directory rs := by
  rw [places, List.filter_cons_of_pos (by simp [inside]), List.map_cons, places]

theorem target_ne_nil (inside : isAstray home directory r = false) :
    target home directory r ≠ [] := by
  rw [isAstray, Bool.not_eq_false', Location.isBelow_iff] at inside
  intro root
  rw [root] at inside
  exact inside.2 (List.prefix_nil.mp inside.1).symm

theorem store_done (sound : w.error = none) (grounded : w.tree.Grounded) {l : Location}
    (plain : ".." ∉ l) (filled : l ≠ []) (placeable : w.tree.Placeable l)
    (content : Encodable r.content) (directory : Path) :
    (w.store r directory l).error = none := by
  obtain ⟨made, t, written, _⟩ := placeable.placed grounded plain filled content
  unfold store
  simp only [made, written, sound]

structure Deliverable (home : Location) (directory : Path) (r : MacroResult) : Prop where
  named : Addressable r.fileName
  content : isAstray home directory r = false → Encodable r.content

theorem write_done (sound : w.error = none) (grounded : w.tree.Grounded) (plain : ".." ∉ home)
    (at_home : w.tree.workingDirectory = home) (given : Addressable directory.text)
    (deliverable : Deliverable home directory r)
    (placeable : isAstray home directory r = false →
      w.tree.Placeable (target home directory r)) :
    (write directory (Location.resolve home directory) w r).error = none := by
  unfold write
  simp only [sound, (Path.unresolvable?_below given).mpr deliverable.named, at_home]
  cases astray : isAstray home directory r with
  | true =>
    have outside : (target home directory r).isBelow (Location.resolve home directory) = false := by
      simpa [isAstray] using astray
    rw [target] at outside
    rw [if_neg (by simp [outside])]
    exact sound
  | false =>
    have below : (target home directory r).isBelow (Location.resolve home directory) = true := by
      simpa [isAstray] using astray
    rw [target] at below
    rw [if_pos below]
    change ((w.claim r (target home directory r)).store r directory _).error = none
    have claimed : (w.claim r (target home directory r)).error = none := sound
    exact store_done claimed grounded (Location.plain_resolve plain _) (target_ne_nil astray)
      (placeable astray) (deliverable.content astray) directory

theorem placed_of_done (grounded : w.tree.Grounded) (plain : ".." ∉ home)
    (at_home : w.tree.workingDirectory = home) (inside : isAstray home directory r = false)
    (done : (write directory (Location.resolve home directory) w r).error = none) :
    Encodable r.content ∧ w.tree.Placeable (target home directory r) ∧
      w.tree.Placed (write directory (Location.resolve home directory) w r).tree
        (target home directory r) r.content := by
  have stores := write_of_inside at_home inside done
  rw [stores] at done ⊢
  obtain ⟨made, written, stored⟩ := done_store done
  rw [stored]
  exact FileTree.placeable_of_written grounded (Location.plain_resolve plain _)
    (target_ne_nil inside) made written

theorem foldl_done_iff (sound : w.error = none) (grounded : w.tree.Grounded)
    (plain : ".." ∉ home) (at_home : w.tree.workingDirectory = home)
    (given : Addressable directory.text) (rs : List MacroResult) :
    (rs.foldl (write directory (Location.resolve home directory)) w).error = none ↔
      (∀ r ∈ rs, Deliverable home directory r) ∧ w.tree.Fits (places home directory rs) := by
  induction rs generalizing w with
  | nil => exact iff_of_true sound ⟨fun _ member => absurd member List.not_mem_nil, .nil _⟩
  | cons r rs ih =>
    rw [List.foldl_cons, List.forall_mem_cons]
    by_cases done : (write directory (Location.resolve home directory) w r).error = none
    · have named := (Path.unresolvable?_below given).mp (error_of_write done).2
      have grows := grows_write plain at_home directory r
      rw [ih done (grows.grounded grounded) (grows.workingDirectory.trans at_home)]
      cases astray : isAstray home directory r with
      | true =>
        have deliverable : Deliverable home directory r :=
          ⟨named, fun inside => by cases astray.symm.trans inside⟩
        rw [places_of_astray astray, write_of_astray at_home astray done,
          and_iff_right deliverable]
        exact Iff.rfl
      | false =>
        obtain ⟨content, placeable, placed⟩ := placed_of_done grounded plain at_home astray done
        rw [places_of_inside astray, and_iff_right (show Deliverable home directory r from
          ⟨named, fun _ => content⟩)]
        exact and_congr_right fun _ => (placed.fits_iff placeable _).symm
    · -- one document that cannot be written is in the way of all
      refine iff_of_false (fun whole => done (error_of_foldl whole)) ?_
      rintro ⟨⟨deliverable, _⟩, fits⟩
      refine done (write_done sound grounded plain at_home given deliverable ?_)
      intro inside
      rw [places_of_inside inside] at fits
      exact fits.placeable _ List.mem_cons_self

/-- Nothing is in the way of the output directory and of the documents. -/
structure Unobstructed (t : FileTree) (directory : Path) (results : List MacroResult) : Prop where
  way : t.Clear directory
  deliverable : ∀ r ∈ results.filter MacroResult.success,
    Deliverable t.workingDirectory directory r
  fits : t.Fits (places t.workingDirectory directory (results.filter MacroResult.success))
  beside : ∀ l ∈ places t.workingDirectory directory (results.filter MacroResult.success),
    ¬ FileTree.OnTheWay t.workingDirectory directory l

theorem all_done_iff {t : FileTree} (grounded : t.Grounded) (plain : ".." ∉ t.workingDirectory)
    (directory : Path) (results : List MacroResult) :
    (all t directory results).error = none ↔ Unobstructed t directory results := by
  have grows := t.grows_makeDirectories directory fun _ => False
  by_cases made : (t.makeDirectories directory).error = none
  · have whole : all t directory results = (results.filter MacroResult.success).foldl
        (write directory (Location.resolve t.workingDirectory directory))
        { tree := (t.makeDirectories directory).tree } := by
      unfold all
      simp only [made]
    have clear := (FileTree.makeDirectories_done_iff grounded directory).mp made
    rw [whole, foldl_done_iff rfl (grows.grounded grounded) plain grows.workingDirectory
      clear.usable.1, FileTree.fits_made_iff grounded made]
    exact ⟨fun ⟨deliverable, fits, beside⟩ => ⟨clear, deliverable, fits, beside⟩,
      fun free => ⟨free.deliverable, free.fits, free.beside⟩⟩
  · refine iff_of_false (fun done => made (all_of_done done).1) ?_
    exact fun free => made ((FileTree.makeDirectories_done_iff grounded directory).mpr free.way)

end Rulesheet.Writing
