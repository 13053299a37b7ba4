import Rulesheet.Output
import Rulesheet.Proofs.Files.Changing

/- Where documents are written. Whatever their names are, the writing makes the output directory,
   the missing ones above it, and what lies below it, and nothing else. A document whose name leads
   elsewhere is counted and reported, and leaves the rest of the writing as it would be without
   it. -/
namespace Rulesheet.Writing

def target (home : Location) (directory : Path) (r : MacroResult) : Location :=
  Location.resolve home (directory ++ .ofString r.fileName)

def isAstray (home : Location) (directory : Path) (r : MacroResult) : Bool :=
  !(target home directory r).isBelow (Location.resolve home directory)

def astray (home : Location) (directory : Path) (results : List MacroResult) : List MacroResult :=
  (results.filter MacroResult.success).filter (isAstray home directory)

/-- Where a writing may make a directory: at the output directory, above it or below it. What is
    above it in its path as written counts even if double points lead out of there again. -/
inductive Makes (home : Location) (directory : Path) (l : Location) : Prop where
  | asWritten (on : FileTree.OnTheWay home directory l)
  | above (prior : l <+: Location.resolve home directory)
  | below (inside : l.isBelow (Location.resolve home directory) = true)

def Writes (home : Location) (directory : Path) (l : Location) : Prop :=
  l.isBelow (Location.resolve home directory) = true

variable {home : Location} {directory : Path} {w w' : Writing} {r : MacroResult}

theorem makes_of_above {l l' : Location}
    (inside : l.isBelow (Location.resolve home directory) = true) (prior : l' <+: l) :
    Makes home directory l' := by
  obtain ⟨root, _⟩ := Location.isBelow_iff.mp inside
  rcases List.prefix_or_prefix_of_prefix prior root with above | below
  · exact .above above
  · by_cases same : l' = Location.resolve home directory
    · exact .above (same ▸ List.prefix_rfl)
    · exact .below (Location.isBelow_iff.mpr ⟨below, same⟩)

theorem grows_store {l : Location} (plain : ".." ∉ l)
    (inside : l.isBelow (Location.resolve home directory) = true) :
    w.tree.Grows (w.store r directory l).tree (Makes home directory) (Writes home directory) := by
  have parents : w.tree.Grows (w.tree.makeDirectories ⟨"/", l.dropLast⟩).tree
      (Makes home directory) (Writes home directory) := by
    refine (w.tree.grows_makeDirectories ⟨"/", l.dropLast⟩ _).mono ?_ fun _ => id
    -- the parent is spelled from the root, so that it is made where it says
    rintro l' _ ⟨segments, before, rfl⟩
    have prior : segments <+: l := before.trans (List.dropLast_prefix l)
    have apart : ".." ∉ segments := fun member => plain (prior.subset member)
    rw [Location.resolve_rooted apart]
    exact makes_of_above inside prior
  have written := parents.trans ((FileTree.grows_writeText
    (w.tree.makeDirectories ⟨"/", l.dropLast⟩).tree ⟨"/", l⟩ r.content _).mono (fun _ _ => id)
      fun l' here => by
        rw [here, Location.resolve_rooted plain]
        exact inside)
  unfold store
  dsimp only
  split
  · exact parents
  · split
    · exact written
    · exact written

theorem grows_write (plain : ".." ∉ home) (at_home : w.tree.workingDirectory = home)
    (directory : Path) (r : MacroResult) :
    w.tree.Grows (write directory (Location.resolve home directory) w r).tree
      (Makes home directory) (Writes home directory) := by
  unfold write
  split
  · exact .refl _ _ _
  split
  · exact .refl _ _ _
  dsimp only
  split
  · rename_i inside
    rw [at_home] at inside ⊢
    change (w.claim r (target home directory r)).tree.Grows _ _ _
    exact grows_store (Location.plain_resolve plain _) inside
  · exact .refl _ _ _

theorem grows_foldl (plain : ".." ∉ home) (rs : List MacroResult)
    (at_home : w.tree.workingDirectory = home) :
    w.tree.Grows (rs.foldl (write directory (Location.resolve home directory)) w).tree
      (Makes home directory) (Writes home directory) := by
  induction rs generalizing w with
  | nil => exact .refl _ _ _
  | cons r rs ih =>
    have first := grows_write plain at_home directory r
    exact first.trans (ih (first.workingDirectory.trans at_home))

theorem grows_all {t : FileTree} (plain : ".." ∉ t.workingDirectory) (directory : Path)
    (results : List MacroResult) :
    t.Grows (all t directory results).tree (Makes t.workingDirectory directory)
      (Writes t.workingDirectory directory) := by
  have made : t.Grows (t.makeDirectories directory).tree (Makes t.workingDirectory directory)
      (Writes t.workingDirectory directory) :=
    (t.grows_makeDirectories directory _).mono (fun _ _ on => .asWritten on) fun _ => id
  have written : ∀ w : Writing, w.tree = (t.makeDirectories directory).tree →
      t.Grows ((results.filter MacroResult.success).foldl
          (write directory (Location.resolve t.workingDirectory directory)) w).tree
        (Makes t.workingDirectory directory) (Writes t.workingDirectory directory) := by
    intro w begun
    rw [← begun] at made
    exact made.trans (grows_foldl plain _ made.workingDirectory)
  unfold all
  dsimp only
  split
  · exact made
  · exact written _ rfl

/-! The documents that are refused. -/

def refusal (directory : Path) (r : MacroResult) : LogEntry :=
  .error ("macro " ++ r.macroName ++ ": refusing to write " ++ Text.quoted r.fileName ++
    " outside " ++ directory.text)

def errors (w : Writing) : List LogEntry := w.entries.filter (·.level = Level.error)

structure Agree (w w' : Writing) : Prop where
  tree : w'.tree = w.tree
  written : w'.written = w.written
  seen : w'.seen = w.seen
  error : w'.error = w.error

theorem error_of_write {root : Location} (done : (write directory root w r).error = none) :
    w.error = none ∧ (directory ++ .ofString r.fileName).unresolvable? = none := by
  unfold write at done
  split at done
  · rename_i e failed
    rw [failed] at done
    cases done
  · rename_i sound
    split at done
    · cases done
    · rename_i named
      exact ⟨sound, named⟩

theorem error_of_foldl {root : Location} {rs : List MacroResult}
    (done : (rs.foldl (write directory root) w).error = none) : w.error = none := by
  induction rs generalizing w with
  | nil => exact done
  | cons r rs ih => exact (error_of_write (ih done)).1

theorem write_of_resolvable (at_home : w.tree.workingDirectory = home) (sound : w.error = none)
    (named : (directory ++ .ofString r.fileName).unresolvable? = none) :
    write directory (Location.resolve home directory) w r =
      if isAstray home directory r then w.refuse r directory
      else (w.claim r (target home directory r)).store r directory (target home directory r) := by
  unfold write isAstray target
  simp only [sound, named, at_home]
  cases (Location.resolve home (directory ++ .ofString r.fileName)).isBelow
    (Location.resolve home directory) <;> rfl

theorem write_of_astray (at_home : w.tree.workingDirectory = home)
    (astray : isAstray home directory r = true)
    (done : (write directory (Location.resolve home directory) w r).error = none) :
    write directory (Location.resolve home directory) w r = w.refuse r directory := by
  obtain ⟨sound, named⟩ := error_of_write done
  rw [write_of_resolvable at_home sound named, if_pos astray]

theorem write_of_inside (at_home : w.tree.workingDirectory = home)
    (inside : isAstray home directory r = false)
    (done : (write directory (Location.resolve home directory) w r).error = none) :
    write directory (Location.resolve home directory) w r =
      (w.claim r (target home directory r)).store r directory (target home directory r) := by
  obtain ⟨sound, named⟩ := error_of_write done
  rw [write_of_resolvable at_home sound named, inside, if_neg Bool.false_ne_true]

theorem done_store {l : Location} (done : (w.store r directory l).error = none) :
    (w.tree.makeDirectories ⟨"/", l.dropLast⟩).error = none ∧
      ((w.tree.makeDirectories ⟨"/", l.dropLast⟩).tree.writeText ⟨"/", l⟩ r.content).error =
        none ∧
      w.store r directory l =
        { w with
          tree := ((w.tree.makeDirectories ⟨"/", l.dropLast⟩).tree.writeText ⟨"/", l⟩
            r.content).tree
          written := w.written ++ [directory ++ .ofString r.fileName] } := by
  unfold store at done ⊢
  dsimp only at done ⊢
  split at done
  · cases done
  · rename_i made
    split at done
    · cases done
    · rename_i written
      exact ⟨made, written, rfl⟩

theorem errors_claim (w : Writing) (r : MacroResult) (l : Location) :
    (w.claim r l).errors = w.errors := by
  unfold errors claim
  dsimp only
  rw [List.filter_append]
  split
  · simp [LogEntry.warning, Level.warning, Level.error]
  · simp

/-- What a writing takes in of documents: some are refused, counted and reported, the others are
    written. -/
structure Accounts (home : Location) (directory : Path) (w : Writing) (rs : List MacroResult)
    (w' : Writing) : Prop where
  refused : w'.refused = w.refused + (rs.filter (isAstray home directory)).length
  errors : w'.errors = w.errors ++ (rs.filter (isAstray home directory)).map (refusal directory)
  written : w'.written = w.written ++ (rs.filter fun r => !isAstray home directory r).map
    fun r => directory ++ .ofString r.fileName

theorem Accounts.cons {w'' : Writing} {rs : List MacroResult}
    (first : Accounts home directory w [r] w') (rest : Accounts home directory w' rs w'') :
    Accounts home directory w (r :: rs) w'' := by
  have split : ∀ keep : MacroResult → Bool,
      (r :: rs).filter keep = [r].filter keep ++ rs.filter keep := by
    intro keep
    rw [← List.filter_append, List.singleton_append]
  refine ⟨?_, ?_, ?_⟩
  · rw [rest.refused, first.refused, split, List.length_append, Nat.add_assoc]
  · rw [rest.errors, first.errors, split, List.map_append, List.append_assoc]
  · rw [rest.written, first.written, split, List.map_append, List.append_assoc]

theorem account_write (at_home : w.tree.workingDirectory = home)
    (done : (write directory (Location.resolve home directory) w r).error = none) :
    Accounts home directory w [r] (write directory (Location.resolve home directory) w r) := by
  cases astray : isAstray home directory r with
  | true =>
    rw [write_of_astray at_home astray done]
    refine ⟨?_, ?_, ?_⟩
    · simp [astray, refuse]
    · simp [astray, refuse, Writing.errors, refusal, LogEntry.error]
    · simp [astray, refuse]
  | false =>
    have stores := write_of_inside at_home astray done
    rw [stores] at done
    obtain ⟨_, _, stored⟩ := done_store done
    rw [stores, stored]
    refine ⟨?_, ?_, ?_⟩
    · simp [astray, claim]
    · simp only [astray, List.filter_cons_of_neg, Bool.false_eq_true, not_false_eq_true,
        List.filter_nil, List.map_nil, List.append_nil]
      exact errors_claim w r _
    · simp [astray, claim]

theorem workingDirectory_write (directory : Path) (root : Location) (w : Writing)
    (r : MacroResult) :
    (write directory root w r).tree.workingDirectory = w.tree.workingDirectory := by
  have made : ∀ p, (w.tree.makeDirectories p).tree.workingDirectory = w.tree.workingDirectory :=
    fun p => (w.tree.grows_makeDirectories p fun _ => False).workingDirectory
  have wrote : ∀ p q s, ((w.tree.makeDirectories p).tree.writeText q s).tree.workingDirectory =
      w.tree.workingDirectory := fun p q s =>
    ((w.tree.makeDirectories p).tree.grows_writeText q s fun _ => False).workingDirectory.trans
      (made p)
  unfold write store
  split
  · rfl
  split
  · rfl
  dsimp only
  split
  · split
    · exact made _
    · split
      · exact wrote _ _ _
      · exact wrote _ _ _
  · rfl

theorem account_foldl {rs : List MacroResult} (at_home : w.tree.workingDirectory = home)
    (done : (rs.foldl (write directory (Location.resolve home directory)) w).error = none) :
    Accounts home directory w rs
      (rs.foldl (write directory (Location.resolve home directory)) w) := by
  induction rs generalizing w with
  | nil => exact ⟨rfl, (List.append_nil _).symm, (List.append_nil _).symm⟩
  | cons r rs ih =>
    have first := account_write at_home (error_of_foldl done)
    have still := workingDirectory_write directory (Location.resolve home directory) w r
    exact first.cons (ih (still.trans at_home) done)

theorem Agree.claim (agree : Agree w w') (r : MacroResult) (l : Location) :
    Agree (w.claim r l) (w'.claim r l) where
  tree := agree.tree
  written := agree.written
  seen := congrArg ((l, r.macroName) :: ·) agree.seen
  error := agree.error

theorem Agree.store (agree : Agree w w') (r : MacroResult) (directory : Path) (l : Location) :
    Agree (w.store r directory l) (w'.store r directory l) := by
  unfold Writing.store
  rw [agree.tree]
  dsimp only
  split
  · exact ⟨rfl, agree.written, agree.seen, rfl⟩
  · split
    · exact ⟨rfl, agree.written, agree.seen, rfl⟩
    · exact ⟨rfl, congrArg (· ++ _) agree.written, agree.seen, agree.error⟩

theorem Agree.write (agree : Agree w w') (directory : Path) (root : Location) (r : MacroResult) :
    Agree (w.write directory root r) (w'.write directory root r) := by
  unfold Writing.write
  rw [agree.error, agree.tree]
  split
  · exact agree
  split
  · exact ⟨rfl, agree.written, agree.seen, rfl⟩
  dsimp only
  split
  · exact (agree.claim r _).store r directory _
  · exact ⟨agree.tree, agree.written, agree.seen, agree.error⟩

theorem Agree.foldl {rs : List MacroResult}
    (at_home : w.tree.workingDirectory = home) (agree : Agree w w')
    (done : (rs.foldl (Writing.write directory (Location.resolve home directory)) w).error = none) :
    Agree (rs.foldl (Writing.write directory (Location.resolve home directory)) w)
      ((rs.filter fun r => !isAstray home directory r).foldl
        (Writing.write directory (Location.resolve home directory)) w') := by
  induction rs generalizing w w' with
  | nil => exact agree
  | cons r rs ih =>
    have still := workingDirectory_write directory (Location.resolve home directory) w r
    have next := still.trans at_home
    rw [List.foldl_cons] at done ⊢
    cases astray : isAstray home directory r with
    | true =>
      -- a refusal changes the count and the entries, which agreement leaves out
      rw [List.filter_cons_of_neg (by simp [astray])]
      refine ih next ?_ done
      rw [write_of_astray at_home astray (error_of_foldl done)]
      exact ⟨agree.tree, agree.written, agree.seen, agree.error⟩
    | false =>
      rw [List.filter_cons_of_pos (by simp [astray]), List.foldl_cons]
      exact ih next (agree.write directory _ r) done

theorem all_of_done {t : FileTree} {results : List MacroResult}
    (done : (all t directory results).error = none) :
    (t.makeDirectories directory).error = none ∧ ∀ results,
      all t directory results = (results.filter MacroResult.success).foldl
        (write directory (Location.resolve t.workingDirectory directory))
        { tree := (t.makeDirectories directory).tree } := by
  unfold all at done
  cases made : (t.makeDirectories directory).error with
  | some e =>
    simp only [made] at done
    cases done
  | none =>
    refine ⟨rfl, fun results => ?_⟩
    unfold all
    simp only [made]

theorem account_all {t : FileTree} {results : List MacroResult}
    (done : (all t directory results).error = none) :
    Accounts t.workingDirectory directory { tree := (t.makeDirectories directory).tree }
        (results.filter MacroResult.success) (all t directory results) ∧
      Agree (all t directory results)
        (all t directory (results.filter fun r => !isAstray t.workingDirectory directory r)) := by
  obtain ⟨_, whole⟩ := all_of_done done
  have made : (t.makeDirectories directory).tree.workingDirectory = t.workingDirectory :=
    (t.grows_makeDirectories directory fun _ => False).workingDirectory
  have order : ∀ keep : MacroResult → Bool, (results.filter keep).filter MacroResult.success =
      (results.filter MacroResult.success).filter keep := by
    intro keep
    rw [List.filter_filter, List.filter_filter]
    exact List.filter_congr fun r _ => Bool.and_comm _ _
  rw [whole] at done
  rw [whole results, whole (results.filter _), order]
  exact ⟨account_foldl made done, Agree.foldl made ⟨rfl, rfl, rfl, rfl⟩ done⟩

theorem refused_of_account {t : FileTree} {results : List MacroResult}
    (done : (all t directory results).error = none) :
    (all t directory results).refused = (astray t.workingDirectory directory results).length ∧
      (all t directory results).errors =
        (astray t.workingDirectory directory results).map (refusal directory) := by
  obtain ⟨account, _⟩ := account_all done
  exact ⟨account.refused.trans (Nat.zero_add _), account.errors.trans (List.nil_append _)⟩

end Rulesheet.Writing
