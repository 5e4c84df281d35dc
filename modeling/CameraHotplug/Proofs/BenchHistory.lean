import CameraHotplug.Proofs.BenchFiles
import Mathlib.Data.List.Induction

/-!
# What a bench goes by

What a bench answers follows from what was done to it. Its directory shows the entries that were
added and not removed since, in the order of their arrival. A node opens with the content that its
entry was given last, and its name attribute shows that content, however the directories are spelled.
Every opening counts, whatever came of it.
-/

namespace CameraHotplug

namespace Bench

/-- What can happen to a bench. -/
inductive Move where
  | act (action : Action)
  | openNode (path : Path)
  | openWatch (directory : Path)
  | wait
  deriving DecidableEq

def after (bench : Bench) : Move → Bench
  | .act action => bench.apply action
  | .openNode path => (bench.openNode path).2
  | .openWatch directory => (bench.openWatch directory).2
  | .wait => bench.wait.2

def play (moves : List Move) (bench : Bench) : Bench :=
  moves.foldl after bench

/-- What a move does to the entries. An entry is added with a node or without one. -/
inductive Effect where
  | adds (name : String) (content? : Option BenchNode)
  | removes (name : String)
  | keeps

def Effect.name? : Effect → Option String
  | .adds name _ | .removes name => some name
  | .keeps => none

def Move.effect : Move → Effect
  | .act (.addNode name content) | .act (.hotplug name content) => .adds name (some content)
  | .act (.addEntry name) | .act (.hotplugEntry name) => .adds name none
  | .act (.removeEntry name) | .act (.unplug name) => .removes name
  | _ => .keeps

namespace Move

def IsPlain (move : Move) : Prop :=
  ∀ name ∈ move.effect.name?, IsPlainName name

instance (move : Move) : Decidable move.IsPlain :=
  inferInstanceAs (Decidable (∀ name ∈ move.effect.name?, IsPlainName name))

def Adds (move : Move) (name : String) : Prop :=
  ∃ content?, move.effect = .adds name content?

def Gives (move : Move) (name : String) (content : BenchNode) : Prop :=
  move.effect = .adds name (some content)

def Removes (move : Move) (name : String) : Prop :=
  move.effect = .removes name

def opens (path : Path) : Move → Bool
  | .openNode other => other.SamePlace path
  | _ => false

end Move

/-! ### What was done last -/

/-- Some move did it, and all later ones left it so. What a move does may depend on those before
it. -/
def Since (does : List Move → Move → Prop) (leaves : Move → Prop) (moves : List Move) : Prop :=
  ∃ before move after, moves = before ++ move :: after ∧ does before move ∧
    ∀ later ∈ after, leaves later

section Since

variable {does : List Move → Move → Prop} {leaves : Move → Prop}

theorem not_since_nil : ¬ Since does leaves [] := by
  rintro ⟨before, move, after, hmoves, -⟩
  exact List.append_ne_nil_of_right_ne_nil before (List.cons_ne_nil move after) hmoves.symm

theorem since_concat {moves : List Move} {move : Move} :
    Since does leaves (moves ++ [move]) ↔
      does moves move ∨ Since does leaves moves ∧ leaves move := by
  constructor
  · rintro ⟨before, own, after, hmoves, hdoes, hafter⟩
    rcases List.eq_nil_or_concat after with rfl | ⟨front, last, rfl⟩
    · obtain ⟨rfl, hmove⟩ := List.append_inj' hmoves rfl
      obtain rfl := List.singleton_inj.mp hmove
      exact Or.inl hdoes
    · rw [List.concat_eq_append] at hmoves hafter
      rw [← List.cons_append, ← List.append_assoc] at hmoves
      obtain ⟨rfl, hmove⟩ := List.append_inj' hmoves rfl
      obtain rfl := List.singleton_inj.mp hmove
      rw [List.forall_mem_append, List.forall_mem_singleton] at hafter
      exact Or.inr ⟨⟨before, own, front, rfl, hdoes, hafter.1⟩, hafter.2⟩
  · rintro (hdoes | ⟨⟨before, own, after, rfl, hdoes, hafter⟩, hleaves⟩)
    · exact ⟨moves, move, [], rfl, hdoes, by simp⟩
    · refine ⟨before, own, after ++ [move], by simp, hdoes, ?_⟩
      rw [List.forall_mem_append, List.forall_mem_singleton]
      exact ⟨hafter, hleaves⟩

end Since

/-- The entry was added and not removed since. -/
def IsListed (moves : List Move) (name : String) : Prop :=
  Since (fun _ move => move.Adds name) (fun later => ¬ later.Removes name) moves

/-- The entry has been there since the move at a position. -/
def Arrives (moves : List Move) (name : String) (position : Nat) : Prop :=
  Since (fun before move => before.length = position ∧ ¬ IsListed before name ∧ move.Adds name)
    (fun later => ¬ later.Removes name) moves

/-- The content is the last that the entry was given, and the entry was not removed since. -/
def Holds (moves : List Move) (name : String) (content : BenchNode) : Prop :=
  Since (fun _ move => move.Gives name content)
    (fun later => ¬ later.Removes name ∧ ∀ other, ¬ later.Gives name other) moves

/-- The content that the entry was given last, if there is one. -/
def HoldsOptional (moves : List Move) (name : String) : Option BenchNode → Prop
  | some content => Holds moves name content
  | none => ∀ content, ¬ Holds moves name content

/-- The directory was made to fail, and that was not taken back. -/
def DirectoryFails (moves : List Move) : Prop :=
  Since (fun _ move => move = .act (.setDirectoryFails true))
    (· ≠ .act (.setDirectoryFails false)) moves

theorem Arrives.position_lt {moves : List Move} {name : String} {position : Nat}
    (harrives : Arrives moves name position) : position < moves.length := by
  obtain ⟨before, move, after, rfl, ⟨rfl, -, -⟩, -⟩ := harrives
  simp

theorem Arrives.isListed {moves : List Move} {name : String} {position : Nat}
    (harrives : Arrives moves name position) : IsListed moves name := by
  obtain ⟨before, move, after, hmoves, ⟨-, -, hadds⟩, hkeeps⟩ := harrives
  exact ⟨before, move, after, hmoves, hadds, hkeeps⟩

theorem exists_arrives {moves : List Move} {name : String} (hlisted : IsListed moves name) :
    ∃ position, Arrives moves name position := by
  induction moves using List.reverseRecOn with
  | nil => exact absurd hlisted not_since_nil
  | append_singleton moves move ih =>
      by_cases hearlier : IsListed moves name
      · obtain ⟨position, harrives⟩ := ih hearlier
        refine ⟨position, since_concat.mpr (Or.inr ⟨harrives, ?_⟩)⟩
        rcases since_concat.mp hlisted with ⟨content?, hadds⟩ | ⟨-, hkept⟩
        · intro hremoves
          exact nomatch hadds.symm.trans hremoves
        · exact hkept
      · rcases since_concat.mp hlisted with hadds | ⟨hkept, -⟩
        · exact ⟨moves.length, since_concat.mpr (Or.inl ⟨rfl, hearlier, hadds⟩)⟩
        · exact absurd hkept hearlier

/-! ### One move -/

/-- The bench with the entries and nodes that an effect leaves. -/
def affected (bench : Bench) : Effect → Bench
  | .adds name (some content) => bench.addNode name content
  | .adds name none => bench.addEntry name
  | .removes name => bench.removeEntry name
  | .keeps => bench

/-- What entries and nodes are read from. -/
def files (bench : Bench) : Path × Path × List String × List (List Path.Component × BenchNode) :=
  (bench.directory, bench.sysfsRoot, bench.entries, bench.nodes)

theorem files_after (bench : Bench) (move : Move) :
    (bench.after move).files = (bench.affected move.effect).files := by
  cases move with
  | act action => cases action <;> rfl
  | openNode path => rfl
  | openWatch directory =>
      rw [after, openWatch]
      split_ifs <;> rfl
  | wait => rfl

section Moving

variable {bench : Bench} {move : Move} {name : String}

theorem directory_after (bench : Bench) (move : Move) :
    (bench.after move).directory = bench.directory := by
  have hfiles := congrArg Prod.fst (files_after bench move)
  refine hfiles.trans ?_
  cases move.effect with
  | adds name content? =>
      cases content? with
      | none => exact directory_addEntry bench name
      | some content => exact directory_addNode bench name content
  | removes name => rfl
  | keeps => rfl

theorem sysfsRoot_after (bench : Bench) (move : Move) :
    (bench.after move).sysfsRoot = bench.sysfsRoot := by
  have hfiles := congrArg (·.2.1) (files_after bench move)
  refine hfiles.trans ?_
  cases move.effect with
  | adds name content? =>
      cases content? with
      | none => exact sysfsRoot_addEntry bench name
      | some content => exact sysfsRoot_addNode bench name content
  | removes name => rfl
  | keeps => rfl

theorem entries_after (bench : Bench) (move : Move) :
    (bench.after move).entries =
      match move.effect with
      | .adds name _ => if name ∈ bench.entries then bench.entries else bench.entries ++ [name]
      | .removes name => bench.entries.filter (· ≠ name)
      | .keeps => bench.entries := by
  have hfiles := congrArg (·.2.2.1) (files_after bench move)
  refine hfiles.trans ?_
  cases move.effect with
  | adds name content? => cases content? <;> simp only [files, affected, addNode, addEntry_eq]
  | removes name => rfl
  | keeps => rfl

theorem nodes_after (bench : Bench) (move : Move) :
    (bench.after move).nodes =
      match move.effect with
      | .adds name (some content) =>
        (bench.place name, content) :: bench.nodes.filter (·.1 ≠ bench.place name)
      | .removes name => bench.nodes.filter (·.1 ≠ bench.place name)
      | _ => bench.nodes := by
  have hfiles := congrArg (·.2.2.2) (files_after bench move)
  refine hfiles.trans ?_
  cases move.effect with
  | adds name content? =>
      cases content? with
      | none => simp only [files, affected, addEntry_eq]
      | some content =>
          simp only [files, affected, addNode, addEntry_eq]
          rfl
  | removes name => rfl
  | keeps => rfl

/-- What is neither an entry nor a node. -/
theorem opens_directoryFails_after (bench : Bench) (move : Move) :
    ((bench.after move).opens, (bench.after move).directoryFails) =
      match move with
      | .openNode path => (path.components :: bench.opens, bench.directoryFails)
      | .act (.setDirectoryFails fails) => (bench.opens, fails)
      | _ => (bench.opens, bench.directoryFails) := by
  cases move with
  | act action =>
      cases action with
      | addNode | addEntry | hotplug | hotplugEntry =>
        simp only [after, apply, hotplug, hotplugEntry, emit, addNode, addEntry_eq]
      | _ => rfl
  | openNode path => rfl
  | openWatch directory =>
      rw [after, openWatch]
      split_ifs <;> rfl
  | wait => rfl

theorem lookup_filter_ne {place other : List Path.Component} (hne : other ≠ place)
    (nodes : List (List Path.Component × BenchNode)) :
    (nodes.filter (·.1 ≠ place)).lookup other = nodes.lookup other := by
  induction nodes with
  | nil => rfl
  | cons node nodes ih =>
      by_cases hkept : node.1 = place
      · have hother : (other == node.1) = false := by simp [hkept, hne]
        rw [List.filter_cons_of_neg (by simp [hkept]), ih, List.lookup_cons, hother]
      · rw [List.filter_cons_of_pos (by simp [hkept]), List.lookup_cons, List.lookup_cons, ih]

theorem lookup_filter_self (place : List Path.Component)
    (nodes : List (List Path.Component × BenchNode)) :
    (nodes.filter (·.1 ≠ place)).lookup place = none := by
  rw [List.lookup_eq_none_iff]
  intro node hnode
  have hkept := of_decide_eq_true (List.mem_filter.mp hnode).2
  exact bne_iff_ne.mpr (Ne.symm hkept)

theorem place_injective {other : String} (hname : IsPlainName name) (hother : IsPlainName other)
    (hplace : bench.place name = bench.place other) : name = other := by
  rw [place_eq hname, place_eq hother] at hplace
  have hlast := List.append_cancel_left hplace
  rw [List.singleton_inj, Path.Component.named.injEq] at hlast
  exact String.toList_injective hlast

theorem nodeAt?_after (hmove : move.IsPlain) (hname : IsPlainName name) (content : BenchNode) :
    (bench.after move).nodeAt? (bench.place name) = some content ↔
      move.Gives name content ∨ bench.nodeAt? (bench.place name) = some content ∧
        ¬ move.Removes name ∧ ∀ other, ¬ move.Gives name other := by
  have hne : ∀ other, IsPlainName other → name ≠ other → bench.place name ≠ bench.place other :=
    fun other hother hname' hplace => hname' (place_injective hname hother hplace)
  rw [nodeAt?, nodes_after, Move.Gives, Move.Removes]
  unfold Move.Gives
  unfold Move.IsPlain at hmove
  generalize move.effect = effect at hmove ⊢
  cases effect with
  | adds own content? =>
      cases content? with
      | none => simp [nodeAt?]
      | some given =>
          dsimp only
          rw [List.lookup_cons]
          by_cases hown : name = own
          · subst hown
            simp
          · have hplace := hne own (hmove own rfl) hown
            rw [beq_false_of_ne hplace, lookup_filter_ne hplace]
            simp [nodeAt?, Ne.symm hown]
  | removes own =>
      dsimp only
      by_cases hown : name = own
      · subst hown
        rw [lookup_filter_self]
        simp
      · rw [lookup_filter_ne (hne own (hmove own rfl) hown)]
        simp [nodeAt?, Ne.symm hown]
  | keeps => simp [nodeAt?]

end Moving

/-! ### The entries -/

/-- The entries are those that were added and not removed since, the earliest arrival first. -/
structure Follows (bench : Bench) (moves : List Move) : Prop where
  nodup : bench.entries.Nodup
  listed : ∀ name, name ∈ bench.entries ↔ IsListed moves name
  ordered : bench.entries.Pairwise fun first second =>
    ∀ earlier later, Arrives moves first earlier → Arrives moves second later → earlier < later

theorem Arrives.of_concat {moves : List Move} {move : Move} {name : String} {position : Nat}
    (harrives : Arrives (moves ++ [move]) name position) (hlisted : IsListed moves name) :
    Arrives moves name position := by
  rcases since_concat.mp harrives with ⟨-, hnew, -⟩ | ⟨hearlier, -⟩
  · exact absurd hlisted hnew
  · exact hearlier

theorem Arrives.position_eq {moves : List Move} {move : Move} {name : String} {position : Nat}
    (harrives : Arrives (moves ++ [move]) name position) (hlisted : ¬ IsListed moves name) :
    position = moves.length := by
  rcases since_concat.mp harrives with ⟨hposition, -, -⟩ | ⟨hearlier, -⟩
  · exact hposition.symm
  · exact absurd (Arrives.isListed hearlier) hlisted

/-- Entries that were there keep their order, whatever a move does. -/
theorem Follows.pairwise_concat {bench : Bench} {moves : List Move} (hfollows : bench.Follows moves)
    (move : Move) :
    bench.entries.Pairwise fun first second => ∀ earlier later,
      Arrives (moves ++ [move]) first earlier → Arrives (moves ++ [move]) second later →
        earlier < later := by
  refine hfollows.ordered.imp_of_mem ?_
  intro first second hfirst hsecond hordered earlier later hearlier hlater
  exact hordered earlier later (hearlier.of_concat ((hfollows.listed first).mp hfirst))
    (hlater.of_concat ((hfollows.listed second).mp hsecond))

theorem Follows.after {bench : Bench} {moves : List Move} (hfollows : bench.Follows moves)
    (move : Move) : (bench.after move).Follows (moves ++ [move]) := by
  have hordered := hfollows.pairwise_concat move
  have hlisted : ∀ name, IsListed (moves ++ [move]) name ↔
      (∃ content?, move.effect = .adds name content?) ∨
        name ∈ bench.entries ∧ ¬ move.effect = .removes name := by
    intro name
    rw [IsListed, since_concat, hfollows.listed]
    rfl
  have hentries := entries_after bench move
  generalize move.effect = effect at hlisted hentries
  cases effect with
  | adds own content? =>
      dsimp only at hentries
      have hnames : ∀ name, IsListed (moves ++ [move]) name ↔ own = name ∨ name ∈ bench.entries := by
        simp [hlisted]
      by_cases hown : own ∈ bench.entries
      · replace hentries : (bench.after move).entries = bench.entries := by
          rw [hentries, if_pos hown]
        refine ⟨hentries ▸ hfollows.nodup, ?_, hentries ▸ hordered⟩
        intro name
        rw [hentries, hnames, or_iff_right_of_imp (fun heq => heq ▸ hown)]
      · replace hentries : (bench.after move).entries = bench.entries ++ [own] := by
          rw [hentries, if_neg hown]
        refine ⟨?_, ?_, ?_⟩
        · rw [hentries, List.nodup_append]
          refine ⟨hfollows.nodup, List.pairwise_singleton _ own, ?_⟩
          intro name hname other hother heq
          obtain rfl := List.mem_singleton.mp hother
          exact hown (heq ▸ hname)
        · intro name
          rw [hentries, hnames, List.mem_append, List.mem_singleton, or_comm, eq_comm]
        · rw [hentries, List.pairwise_append]
          refine ⟨hordered, List.pairwise_singleton _ own, ?_⟩
          intro first hfirst second hsecond earlier later hearlier hlater
          obtain rfl := List.mem_singleton.mp hsecond
          have hnew : ¬ IsListed moves second := (hfollows.listed second).not.mp hown
          rw [hlater.position_eq hnew]
          exact (hearlier.of_concat ((hfollows.listed first).mp hfirst)).position_lt
  | removes own =>
      refine ⟨?_, ?_, ?_⟩
      · rw [hentries]
        exact hfollows.nodup.filter _
      · intro name
        rw [hentries, hlisted, List.mem_filter]
        simp [ne_comm]
      · rw [hentries]
        exact hordered.filter _
  | keeps =>
      refine ⟨hentries ▸ hfollows.nodup, ?_, hentries ▸ hordered⟩
      intro name
      rw [hentries, hlisted]
      simp

/-! ### All moves -/

theorem play_concat (moves : List Move) (move : Move) (bench : Bench) :
    play (moves ++ [move]) bench = (play moves bench).after move := by
  rw [play, List.foldl_append]
  rfl

section Playing

variable {directory sysfsRoot : Path} {moves : List Move} {name : String}

theorem directory_play : (play moves (make directory sysfsRoot)).directory = directory := by
  induction moves using List.reverseRecOn with
  | nil => rfl
  | append_singleton moves move ih => rw [play_concat, directory_after, ih]

theorem sysfsRoot_play : (play moves (make directory sysfsRoot)).sysfsRoot = sysfsRoot := by
  induction moves using List.reverseRecOn with
  | nil => rfl
  | append_singleton moves move ih => rw [play_concat, sysfsRoot_after, ih]

theorem place_play (name : String) :
    (play moves (make directory sysfsRoot)).place name = (directory.join name).components := by
  rw [place, directory_play]

theorem follows_play : (play moves (make directory sysfsRoot)).Follows moves := by
  induction moves using List.reverseRecOn with
  | nil => exact ⟨.nil, fun name => by simp [IsListed, not_since_nil, play, make], .nil⟩
  | append_singleton moves move ih =>
      rw [play_concat]
      exact ih.after move

theorem nodeAt?_play (hplain : ∀ move ∈ moves, move.IsPlain) (hname : IsPlainName name)
    (content : BenchNode) :
    (play moves (make directory sysfsRoot)).nodeAt? (directory.join name).components =
      some content ↔ Holds moves name content := by
  induction moves using List.reverseRecOn with
  | nil => simp [Holds, not_since_nil, play, make, nodeAt?]
  | append_singleton moves move ih =>
      rw [List.forall_mem_append, List.forall_mem_singleton] at hplain
      rw [play_concat, ← place_play name, nodeAt?_after hplain.2 hname, place_play, ih hplain.1,
        Holds, Holds, since_concat]

theorem nodeAt?_play_of_holdsOptional (hplain : ∀ move ∈ moves, move.IsPlain)
    (hname : IsPlainName name) {content? : Option BenchNode}
    (hheld : HoldsOptional moves name content?) :
    (play moves (make directory sysfsRoot)).nodeAt? (directory.join name).components =
      content? := by
  cases content? with
  | none =>
      rw [Option.eq_none_iff_forall_ne_some]
      exact fun content hcontent => hheld content ((nodeAt?_play hplain hname content).mp hcontent)
  | some content => exact (nodeAt?_play hplain hname content).mpr hheld

theorem directoryFails_play :
    (play moves (make directory sysfsRoot)).directoryFails = true ↔ DirectoryFails moves := by
  unfold DirectoryFails
  induction moves using List.reverseRecOn with
  | nil => simp [not_since_nil, play, make]
  | append_singleton moves move ih =>
      have hstep := congrArg Prod.snd
        (opens_directoryFails_after (play moves (make directory sysfsRoot)) move)
      dsimp only at hstep
      rw [play_concat, hstep, since_concat, ← ih]
      cases move with
      | act action =>
          cases action with
          | setDirectoryFails fails => cases fails <;> simp
          | _ => simp
      | _ => simp

theorem openCount_play (name : String) :
    (play moves (make directory sysfsRoot)).openCount name =
      moves.countP (Move.opens (directory.join name)) := by
  rw [openCount, place_play]
  induction moves using List.reverseRecOn with
  | nil => rfl
  | append_singleton moves move ih =>
      have hstep := congrArg Prod.fst
        (opens_directoryFails_after (play moves (make directory sysfsRoot)) move)
      dsimp only at hstep
      rw [play_concat, hstep, List.countP_append, ← ih, List.countP_singleton]
      cases move with
      | act action => cases action <;> simp [Move.opens]
      | openNode path =>
          simp only [Move.opens, List.count_cons, decide_eq_true_eq, beq_iff_eq]
          rfl
      | _ => simp [Move.opens]

end Playing

/-- While no error of the directory is set, it lists exactly the entries that were added and not
removed since, each once, in the order in which they came. The node of an entry opens with the
content given last since the entry was removed, unless that refuses or there is none, and its name
attribute holds what that content says; an entry that is added again without a node keeps its
content. All openings at its path count, in any spelling and failed ones too. -/
theorem answers_follow_history (directory sysfsRoot : Path) {moves : List Move}
    (hplain : ∀ move ∈ moves, move.IsPlain) :
    let bench := play moves (make directory sysfsRoot)
    (∀ spelling : Path, spelling.SamePlace directory → ¬ DirectoryFails moves →
      ∃ names, bench.listing spelling = .ok names ∧ names.Nodup ∧
        (∀ name, name ∈ names ↔ IsListed moves name) ∧
        (∀ name ∈ names, ∃ position, Arrives moves name position) ∧
        names.Pairwise fun first second => ∀ earlier later,
          Arrives moves first earlier → Arrives moves second later → earlier < later) ∧
    ∀ name, IsPlainName name →
      (∀ content?, HoldsOptional moves name content? →
        (∀ path : Path, path.SamePlace (directory.join name) →
          (bench.openNode path).1 =
            match content? with
            | some content => if content.refusesOpen then .error .busy else .ok content
            | none => .error .noSuchEntry) ∧
        ∀ node : DeviceNode, node.name = name →
          bench.attributeText (node.nameAttribute sysfsRoot) =
            match content?.bind BenchNode.attribute? with
            | some text => .ok text
            | none => .error .noSuchEntry) ∧
      bench.openCount name = moves.countP (Move.opens (directory.join name)) := by
  intro bench
  have hfollows : bench.Follows moves := follows_play
  refine ⟨?_, ?_⟩
  · intro spelling hspelling hworks
    have hcalm : bench.directoryFails = false :=
      Bool.eq_false_iff.mpr fun hfails => hworks (directoryFails_play.mp hfails)
    have hdirectory : spelling.SamePlace bench.directory := by
      rw [directory_play]
      exact hspelling
    refine ⟨bench.entries, ?_, hfollows.nodup, hfollows.listed, ?_, hfollows.ordered⟩
    · rw [listing, hcalm]
      simp [hdirectory]
    · exact fun name hlisted => exists_arrives ((hfollows.listed name).mp hlisted)
  · intro name hname
    refine ⟨?_, openCount_play name⟩
    intro content? hheld
    have hnode : bench.nodeAt? (directory.join name).components = content? :=
      nodeAt?_play_of_holdsOptional hplain hname hheld
    refine ⟨?_, ?_⟩
    · intro path hpath
      have hplace : path.components = (directory.join name).components := hpath
      rw [← hnode, ← hplace]
      rfl
    · rintro node rfl
      have htext : bench.attributeText (node.nameAttribute bench.sysfsRoot) = _ :=
        attributeText_nameAttribute hname
      rw [sysfsRoot_play, place_play, hnode] at htext
      exact htext

/-! ### A bench with its directories spelled out of the ordinary -/

/-- A camera leaves and comes back as one that refuses to open, and then as a receiver. Its entry is
added once more without a node. -/
def returningMoves : List Move :=
  [.act (.addNode "video1" .uvcCamera), .act (.addEntry "cec0"), .openNode ⟨"/dev/video1"⟩,
    .act (.unplug "video1"), .openNode ⟨"/dev//video1"⟩, .act (.hotplug "video2" .uvcMetadata),
    .act (.hotplug "video1" { BenchNode.uvcCamera with refusesOpen := true }),
    .openNode ⟨"/dev/./video1/"⟩, .act (.addNode "video1" (.capture "mxc_isi.6.capture")),
    .act (.hotplugEntry "video1")]

theorem returningMoves_answers :
    (∀ move ∈ returningMoves, move.IsPlain) ∧
      let bench := play returningMoves (make ⟨"/dev/."⟩ ⟨"./sys//"⟩)
      bench.listing ⟨"/dev"⟩ = .ok ["cec0", "video2", "video1"] ∧
      (∀ earlier later, Arrives returningMoves "video2" earlier →
        Arrives returningMoves "video1" later → earlier < later) ∧
      (bench.openNode ⟨"/dev/video1"⟩).1 = .ok (.capture "mxc_isi.6.capture") ∧
      bench.attributeText ⟨"./sys//video1/name"⟩ = .ok "mxc_isi.6.capture\n" ∧
      bench.openCount "video1" = 3 := by
  have hplain : ∀ move ∈ returningMoves, move.IsPlain := by decide
  have hworks : ¬ DirectoryFails returningMoves := by
    rintro ⟨before, move, after, hmoves, rfl, -⟩
    have hmem : .act (.setDirectoryFails true) ∈ returningMoves := by
      rw [hmoves]
      simp
    exact absurd hmem (by decide)
  have hheld : HoldsOptional returningMoves "video1" (some (.capture "mxc_isi.6.capture")) :=
    ⟨returningMoves.take 8, _, [_], rfl, rfl, by simp [Move.Removes, Move.Gives, Move.effect]⟩
  obtain ⟨hdirectory, hnames⟩ := answers_follow_history ⟨"/dev/."⟩ ⟨"./sys//"⟩ hplain
  obtain ⟨names, hlisting, -, -, -, hordered⟩ := hdirectory ⟨"/dev"⟩ (by decide) hworks
  obtain rfl : ["cec0", "video2", "video1"] = names := Except.ok.inj hlisting
  obtain ⟨hcontent, hcount⟩ := hnames "video1" (by decide)
  obtain ⟨hopens, htext⟩ := hcontent _ hheld
  refine ⟨hplain, hlisting, ?_, ?_, ?_, ?_⟩
  · exact List.rel_of_pairwise_cons (List.pairwise_cons.mp hordered).2 (by simp)
  · exact hopens ⟨"/dev/video1"⟩ (by decide)
  · exact htext ⟨"video1", ⟨"/dev/video1"⟩, 1⟩ rfl
  · rw [hcount]
    decide

end Bench

end CameraHotplug
