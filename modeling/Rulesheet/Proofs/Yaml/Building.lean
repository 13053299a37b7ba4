import Rulesheet.Proofs.Yaml.Merging

/- Building the data of readable documents. A readable document is built or refused: no value of it
   gives trouble, and its data are tame. -/
namespace Rulesheet.Yaml
open Builder (tagAt)

variable {nodes : Array Node} {i : Nat}

namespace Builder

/-- Readable nodes, and tame data so far. What stands for a scalar is one. -/
structure Sound (b : Builder) : Prop where
  nodes : AllReadable b.nodes
  built : ∀ (i : Nat) (d : Datum), b.built[i]?.join = some d →
    d.Short ∧ (kindAt b.nodes i = some .scalar → d.Plain)
  store : b.store.Tame

structure Follows (b b' : Builder) : Prop where
  sound : b'.Sound
  same : b'.nodes = b.nodes

variable {b b' b'' : Builder} {d : Datum}

theorem Sound.follows (sound : b.Sound) : Follows b b := ⟨sound, rfl⟩

theorem Follows.trans (first : Follows b b') (second : Follows b' b'') : Follows b b'' :=
  ⟨second.sound, second.same.trans first.same⟩

def Stands (b : Builder) (i : Nat) (r : Datum × Builder) : Prop :=
  Follows b r.2 ∧ r.1.Short ∧ (kindAt b.nodes i = some .scalar → r.1.Plain)

theorem tagAt_of_getElem? {n : Node} (there : nodes[i]? = some n) : tagAt nodes i = n.tag := by
  rw [tagAt, there]
  rfl

theorem readable_sequence {items : List Nat} (readable : AllReadable nodes)
    (held : nodes[i]?.map Node.shape = some (.sequence items)) :
    Builder.tagAt nodes i = .seq ∧ ∀ j ∈ items, kindAt nodes j = some .scalar := by
  obtain ⟨n, there, shape⟩ := Option.map_eq_some_iff.mp held
  have own := readable i n there
  rw [Node.Readable, shape] at own
  rw [tagAt_of_getElem? there]
  exact own

theorem readable_mapping {entries : List (Nat × Nat)} (readable : AllReadable nodes)
    (held : nodes[i]?.map Node.shape = some (.mapping entries)) :
    Builder.tagAt nodes i = .map := by
  obtain ⟨n, there, shape⟩ := Option.map_eq_some_iff.mp held
  have own := readable i n there
  rw [Node.Readable, shape] at own
  rw [tagAt_of_getElem? there]
  exact own

theorem textAt_scalar {n : Node} {text : String} (there : nodes[i]? = some n)
    (shape : n.shape = .scalar text) (fuel : Nat) : textAt nodes (fuel + 1) i = .ok text := by
  rw [textAt, there, Option.map_some, shape]

theorem short_of_timestamp {text : String} {s : Scalar} (value : timestamp text = .ok s) :
    s.Short := by
  unfold timestamp at value
  split at value
  · unfold Timestamp.value at value
    split at value
    · cases value
    · cases value
      rfl
    · cases value
      rfl
  · cases value

theorem short_ofFloat (mark : Nat) (x : Binary64) : (Scalar.ofFloat mark x).Short := by
  cases x <;> rfl

theorem short_of_float {mark : Nat} {text : String} {s : Scalar}
    (value : float mark text = .ok s) : s.Short := by
  unfold float at value
  dsimp only at value
  split at value
  · exact absurd value (by simp)
  · split at value
    · rw [← Except.ok.inj value]
      rfl
    · split at value
      · rw [← Except.ok.inj value]
        rfl
      · obtain ⟨x, _, value⟩ := bind_eq_ok.mp value
        rw [← Except.ok.inj value]
        exact short_ofFloat mark _

def isCollection (tag : Tag) : Bool := [.seq, .map, .set, .omap, .pairs].contains tag

theorem shape_of_single {n : Node} (own : n.Readable nodes) (single : isCollection n.tag = false) :
    ∃ text, n.shape = .scalar text ∧ Reads n.tag text := by
  unfold Node.Readable at own
  split at own
  · rename_i text shape
    exact ⟨text, shape, own⟩
  · rw [own.1] at single
    cases single
  · rw [own] at single
    cases single

theorem scalarAt_of_text {text : String}
    (given : textAt b.nodes (b.nodes.size + 1) i = .ok text) :
    b.scalarAt i = match tagAt b.nodes i with
      | .null => .ok .null
      | .bool => ((truthValue text).map .boolean).mapError .value
      | .int => ((integer text).map .integer).mapError .value
      | .float => (float (i + 1) text).mapError .value
      | .binary => (binary text).map .bytes
      | .timestamp =>
        match b.nodes[i]?.map Node.shape with
        | some (.mapping _) => .error (.value .mappingForTimestamp)
        | _ => (timestamp text).mapError .value
      | .str => .ok (.text text)
      | _ => refused := by
  rw [scalarAt, given]
  rfl

theorem ends_binary (text : String) :
    Ends (· = .invalid) Scalar.Short ((binary text).map Scalar.bytes) := by
  unfold binary
  split
  · split <;> rfl
  · rfl

theorem ends_scalarAt (readable : AllReadable b.nodes)
    (single : isCollection (tagAt b.nodes i) = false) :
    Ends (· = .invalid) Scalar.Short (b.scalarAt i) := by
  cases there : b.nodes[i]? with
  | none =>
    have text : textAt b.nodes (b.nodes.size + 1) i = refused := by rw [textAt, there]; rfl
    rw [scalarAt, text]
    rfl
  | some n =>
    rw [tagAt_of_getElem? there] at single
    obtain ⟨text, shape, reads⟩ := shape_of_single (readable i n there) single
    rw [scalarAt_of_text (textAt_scalar there shape _), tagAt_of_getElem? there, there,
      Option.map_some, shape]
    cases tag : n.tag with
    | null | str | merge | value | unknown => rfl
    | bool =>
      rw [tag, Reads] at reads
      obtain ⟨_, value⟩ := reads
      dsimp only
      rw [value]
      rfl
    | int =>
      rw [tag, Reads] at reads
      obtain ⟨_, value, short⟩ := reads
      dsimp only
      rw [value]
      exact short
    | float =>
      rw [tag, Reads] at reads
      cases reads (i + 1) with
      | intro s value =>
        dsimp only
        rw [value]
        exact short_of_float value
    | timestamp =>
      rw [tag, Reads] at reads
      obtain ⟨_, value⟩ := reads
      dsimp only
      rw [value]
      exact short_of_timestamp value
    | binary => exact ends_binary text
    | seq | map | set | omap | pairs =>
      rw [tag] at single
      cases single

theorem tame_insert {st : Store} {c : Container} (tame : st.Tame) (inside : c.Tame) :
    (st.insert c).2.Tame := by
  intro c' member
  rcases Array.mem_push.mp member with before | rfl
  · exact tame c' before
  · exact inside

theorem tame_update {st : Store} {c : Container} (tame : st.Tame) (inside : c.Tame) (i : Nat) :
    (st.update i c).Tame := by
  intro c' member
  rcases Array.mem_or_eq_of_mem_setIfInBounds member with before | rfl
  · exact tame c' before
  · exact inside

theorem stands_place (sound : b.Sound) {c : Container} (empty : c.Tame)
    (kind : kindAt b.nodes i ≠ some .scalar) : b.Stands i (b.place i c) :=
  ⟨⟨⟨sound.nodes, sound.built, tame_insert sound.store empty⟩, rfl⟩, trivial,
    fun scalar => absurd scalar kind⟩

theorem stands_remember {r : Datum × Builder} (stands : b.Stands i r) :
    b.Stands i (r.1, { r.2 with built := r.2.built.setIfInBounds i (some r.1) }) := by
  obtain ⟨⟨sound, same⟩, short, plain⟩ := stands
  refine ⟨⟨⟨sound.nodes, ?_, sound.store⟩, same⟩, short, plain⟩
  intro j d held
  dsimp only at held ⊢
  rw [Array.getElem?_setIfInBounds] at held
  split at held
  · rename_i here
    subst here
    split at held
    · obtain rfl : r.1 = d := Option.some.inj held
      exact ⟨short, fun scalar => plain (same ▸ scalar)⟩
    · cases held
  · exact sound.built j d held

theorem kind_of_collection (readable : AllReadable nodes)
    (collection : isCollection (tagAt nodes i) = true) : kindAt nodes i ≠ some .scalar := by
  intro scalar
  obtain ⟨n, there, kind⟩ := exists_of_kindAt scalar
  have own := readable i n there
  rw [tagAt_of_getElem? there] at collection
  unfold Node.Readable at own
  cases shape : n.shape with
  | scalar text =>
    rw [shape] at own
    cases tag : n.tag with
    | seq | map | set | omap | pairs =>
      rw [tag] at own
      exact own
    | null | bool | int | float | binary | timestamp | str | merge | value | unknown =>
      rw [tag] at collection
      cases collection
  | sequence _ | mapping _ =>
    rw [shape] at kind
    cases kind

theorem ends_build (sound : b.Sound) (i : Nat) :
    Ends (· = .invalid) (b.Stands i) (b.build i) := by
  have placed : ∀ c : Container, c.Tame → isCollection (tagAt b.nodes i) = true →
      b.Stands i (b.place i c) := by
    intro c empty collection
    exact stands_place sound empty (kind_of_collection sound.nodes collection)
  have single : isCollection (tagAt b.nodes i) = false →
      Ends (· = .invalid) (fun s => b.Stands i (.scalar s, b)) (b.scalarAt i) := by
    intro other
    refine (ends_scalarAt sound.nodes other).mono ?_
    intro s short
    exact ⟨sound.follows, short, fun _ => ⟨s, rfl, short⟩⟩
  unfold build
  split
  · rename_i d held
    obtain ⟨short, plain⟩ := sound.built i d held
    exact ⟨sound.follows, short, plain⟩
  · cases tag : tagAt b.nodes i with
    | seq | omap | pairs =>
      exact stands_remember (placed (.list []) (fun _ member => absurd member (by simp))
        (by rw [tag]; rfl))
    | map =>
      exact stands_remember (placed (.mapping []) (fun _ member => absurd member (by simp))
        (by rw [tag]; rfl))
    | set =>
      exact stands_remember (placed (.set []) (fun _ member => absurd member (by simp))
        (by rw [tag]; rfl))
    | null | bool | int | float | binary | timestamp | str | merge | value | unknown =>
      refine (single (by rw [tag]; rfl)).bind ?_
      intro s stands
      exact stands_remember stands

def StandAll (b : Builder) (items : List Nat) (r : List Datum × Builder) : Prop :=
  Follows b r.2 ∧ (∀ d ∈ r.1, d.Short) ∧
    ((∀ i ∈ items, kindAt b.nodes i = some .scalar) → ∀ d ∈ r.1, d.Plain)

theorem ends_buildAll (sound : b.Sound) (items : List Nat) :
    Ends (· = .invalid) (b.StandAll items) (b.buildAll items) := by
  induction items generalizing b with
  | nil => exact ⟨sound.follows, by simp, by simp⟩
  | cons i rest ih =>
    rw [buildAll]
    refine (ends_build sound i).bind ?_
    rintro ⟨d, b₁⟩ ⟨first, short, plain⟩
    refine (ih first.sound).bind ?_
    rintro ⟨ds, b₂⟩ ⟨later, shorts, plains⟩
    refine ⟨first.trans later, List.forall_mem_cons.mpr ⟨short, shorts⟩, ?_⟩
    intro scalars
    obtain ⟨one, others⟩ := List.forall_mem_cons.mp scalars
    rw [first.same] at plains
    exact List.forall_mem_cons.mpr ⟨plain one, plains others⟩

def EntriesStand (b : Builder) (r : List (Scalar × Datum) × Builder) : Prop :=
  Follows b r.2 ∧ ∀ e ∈ r.1, e.1.Short ∧ e.2.Short

theorem ends_entriesOf (sound : b.Sound) (entries : List (Nat × Nat)) :
    Ends (· = .invalid) b.EntriesStand (b.entriesOf entries) := by
  induction entries generalizing b with
  | nil => exact ⟨sound.follows, by simp⟩
  | cons e rest ih =>
    obtain ⟨k, v⟩ := e
    rw [entriesOf]
    refine (ends_build sound k).bind ?_
    rintro ⟨key, b₁⟩ ⟨first, shortKey, _⟩
    cases key with
    | place _ => rfl
    | scalar s =>
      refine (ends_build first.sound v).bind ?_
      rintro ⟨d, b₂⟩ ⟨second, short, _⟩
      refine (ih second.sound).bind ?_
      rintro ⟨more, b₃⟩ ⟨later, shorts⟩
      exact ⟨(first.trans second).trans later,
        List.forall_mem_cons.mpr ⟨⟨shortKey, short⟩, shorts⟩⟩

theorem short_putEntry {key : Scalar} {value : Datum} {entries : List (Scalar × Datum)}
    (shortKey : key.Short) (short : value.Short) (old : ∀ e ∈ entries, e.1.Short ∧ e.2.Short) :
    ∀ e ∈ Container.putEntry key value entries, e.1.Short ∧ e.2.Short := by
  induction entries with
  | nil => exact List.forall_mem_singleton.mpr ⟨shortKey, short⟩
  | cons first rest ih =>
    obtain ⟨k, v⟩ := first
    obtain ⟨one, others⟩ := List.forall_mem_cons.mp old
    rw [Container.putEntry]
    split
    · exact List.forall_mem_cons.mpr ⟨⟨one.1, short⟩, others⟩
    · exact List.forall_mem_cons.mpr ⟨one, ih others⟩

theorem short_ofEntries {entries : List (Scalar × Datum)}
    (short : ∀ e ∈ entries, e.1.Short ∧ e.2.Short) :
    ∀ e ∈ Container.ofEntries entries, e.1.Short ∧ e.2.Short := by
  rw [Container.ofEntries]
  refine List.foldlRecOn (motive := fun acc : List (Scalar × Datum) => ∀ e ∈ acc, e.1.Short ∧ e.2.Short) entries _
    (by simp) ?_
  intro acc kept e member
  obtain ⟨shortKey, shortValue⟩ := short e member
  exact short_putEntry shortKey shortValue kept

theorem Sound.kept (sound : b.Sound) (kept : Kept b.nodes nodes) :
    Sound { b with nodes := nodes } where
  nodes := kept.readable
  built := by
    intro i d held
    rw [kept.alike i]
    exact sound.built i d held
  store := sound.store

structure Grows (b b' : Builder) : Prop where
  sound : b'.Sound
  alike : ∀ i, kindAt b'.nodes i = kindAt b.nodes i

theorem Follows.grows (follows : Follows b b') : Grows b b' :=
  ⟨follows.sound, fun i => by rw [follows.same]⟩

theorem ends_mappingAt (sound : b.Sound) (i : Nat) :
    Ends (· = .invalid) (fun r => Grows b r.2 ∧ ∀ e ∈ r.1, e.1.Short ∧ e.2.Short)
      (b.mappingAt i) := by
  unfold mappingAt
  split
  · rename_i held
    refine (kept_mergeFrom _ i 0 [] b.nodes sound.nodes (kindAt_of_shape held)).bind ?_
    intro nodes kept
    refine (ends_entriesOf (sound.kept kept) (entriesAt nodes i)).bind ?_
    rintro ⟨entries, b'⟩ ⟨follows, short⟩
    refine ⟨⟨follows.sound, ?_⟩, short_ofEntries short⟩
    intro j
    rw [follows.same]
    exact kept.alike j
  · rfl

theorem ends_containerAt (sound : b.Sound) (i : Nat) :
    Ends (· = .invalid) (fun r => Grows b r.2 ∧ r.1.Tame) (b.containerAt i) := by
  unfold containerAt
  split
  · rename_i items tag held
    have scalars := (readable_sequence sound.nodes held).2
    refine (ends_buildAll sound items).bind ?_
    rintro ⟨ds, b'⟩ ⟨follows, _, plain⟩
    exact ⟨follows.grows, plain scalars⟩
  · rename_i items tag held
    rw [(readable_sequence sound.nodes held).1] at tag
    cases tag
  · rename_i items tag held
    rw [(readable_sequence sound.nodes held).1] at tag
    cases tag
  · refine (ends_mappingAt sound i).bind ?_
    rintro ⟨entries, b'⟩ ⟨grows, short⟩
    exact ⟨grows, short⟩
  · rename_i entries tag held
    rw [readable_mapping sound.nodes held] at tag
    cases tag
  · rfl

theorem ends_fill (sound : b.Sound) (node place : Nat) :
    Ends (· = .invalid) Sound (b.fill node place) := by
  refine (ends_containerAt sound node).bind ?_
  rintro ⟨c, b'⟩ ⟨⟨grown, _⟩, tame⟩
  exact ⟨grown.nodes, grown.built, tame_update grown.store tame place⟩

theorem ends_fillAll (fuel : Nat) (sound : b.Sound) :
    Ends (· = .invalid) Sound (fillAll fuel b) := by
  induction fuel generalizing b with
  | zero => exact sound
  | succ fuel ih =>
    rw [fillAll]
    split
    · exact sound
    · have level : Sound { b with pending := [] } := ⟨sound.nodes, sound.built, sound.store⟩
      refine (Ends.foldlM level ?_).bind fun b' kept => ih kept
      intro b' kept p _
      exact ends_fill kept p.1 p.2

theorem sound_start (readable : AllReadable nodes) :
    Sound { nodes := nodes, built := Array.replicate nodes.size none } where
  nodes := readable
  built := by
    intro i d held
    rw [Array.getElem?_replicate] at held
    split at held <;> cases held
  store := by
    intro c member
    exact absurd member (Array.not_mem_empty c)

end Builder

/-- A text that is refused as a whole, that has no document, or that has a readable one. -/
def Legible (text : String) : Prop :=
  Ends (· = .invalid) (fun document => ∀ p ∈ document, AllReadable p.2) (Node.graph? text)

/-- The data of a legible text are tame, or the text is refused. -/
theorem Legible.ends_load {text : String} (legible : Legible text) :
    Ends (· = .invalid) Data.Tame (load text) := by
  refine Ends.bind legible ?_
  intro document readable
  cases document with
  | none => exact ⟨fun c member => absurd member (Array.not_mem_empty c), rfl⟩
  | some p =>
    obtain ⟨root, nodes⟩ := p
    have start := Builder.sound_start (readable _ rfl)
    refine (Builder.ends_build start root).bind ?_
    rintro ⟨d, b⟩ ⟨follows, short, _⟩
    refine (Builder.ends_fillAll _ follows.sound).bind ?_
    intro b' sound
    exact ⟨sound.store, short⟩

end Rulesheet.Yaml
