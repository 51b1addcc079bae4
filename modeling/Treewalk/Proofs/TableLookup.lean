import Treewalk.Proofs.Escape
import Treewalk.Proofs.NotANumber
import Treewalk.Proofs.TableLiteral
import Treewalk.Proofs.Transparency

/-!
What a table literal has stored can be looked up. A pair of the literal is given by the evaluation of
its name and its value on the machine that the pairs before it have left, and by the name frozen
(`Eval.GivesPair`). Sending `[]` with the frozen name to the table gives the value of the last pair
whose frozen name is equal to it. A name that is no list is frozen as it stands, so that it finds the
value itself.

A list does not. The literal freezes lists, but `[]` does not freeze its argument, and a list cannot
be a key: sending `[]` with it fails, although the tuple that it was frozen to is there.
-/

set_option autoImplicit false
set_option relaxedAutoImplicit false

namespace Treewalk

/-- A run that goes on to a value came to one before. -/
theorem Run.exists_of_bind_value {α β : Type} {run : Run α} {after : α → Run β}
    {machine last : Machine} {result : β} (hrun : (run >>= after) machine = (.value result, last)) :
    ∃ middle reached, run machine = (.value middle, reached) ∧
      after middle reached = (.value result, last) := by
  rw [bind_apply] at hrun
  rcases hmiddle : run machine with ⟨_ | _ | _ | _, reached⟩
  all_goals rw [hmiddle] at hrun
  · exact ⟨_, reached, rfl, hrun⟩
  all_goals cases hrun

/-- A failed computation fails whatever comes after it. -/
theorem Compute.run_bind_of_error {α β : Type} {computation : Compute α} {memory changed : Memory}
    {cause : Cause} (herror : computation.run.run memory = (.error cause, changed))
    (after : α → Compute β) : (computation >>= after).run.run memory = (.error cause, changed) := by
  change (ExceptT.bindCont after (computation.run.run memory).1).run
    (computation.run.run memory).2 = _
  rw [herror]
  rfl

/-! ### Frozen forms -/

namespace Value

variable {heap : Array Cell} {value : Value}

mutual

/-- A value has one frozen form, but for the marks of its tuples: all its forms have the same key. -/
theorem Freezes.key?_eq {value plain other : Value} (hplain : value.Freezes heap plain)
    (hother : value.Freezes heap other) : plain.key? heap = other.key? heap := by
  match hplain, hother with
  | .kept _, .kept _ => rfl
  | .kept hnone, .list _ hlist _ => cases hnone.symm.trans hlist
  | .list _ hlist _, .kept hnone => cases hnone.symm.trans hlist
  | .list _ hlist hnames, .list _ hitems hothers =>
    obtain rfl := Option.some_inj.mp (hlist.symm.trans hitems)
    obtain ⟨hlength, hkeys⟩ := hnames.keys?_eq hothers
    rw [key?, key?, hlength, hkeys]

theorem FreezeAll.keys?_eq {items names others : List Value} (hnames : FreezeAll heap items names)
    (hothers : FreezeAll heap items others) :
    names.length = others.length ∧ keys? heap names = keys? heap others := by
  match hnames, hothers with
  | .nil, .nil => exact ⟨rfl, rfl⟩
  | .cons hfirst hrest, .cons hother hmore =>
    obtain ⟨hlength, hkeys⟩ := hrest.keys?_eq hmore
    exact ⟨congrArg (· + 1) hlength, by rw [keys?, keys?, hfirst.key?_eq hother, hkeys]⟩

end

/-- What is no list is its own frozen form, and its only one. -/
theorem Freezes.eq_of_not_list {plain : Value} (hfreezes : value.Freezes heap plain)
    (hlist : value.list? heap = none) : plain = value := by
  cases hfreezes with
  | kept _ => rfl
  | list _ hitems _ => cases hlist.symm.trans hitems

/-- A list cannot be a key. -/
theorem key?_eq_none_of_list? (hlist : value.list? heap ≠ none) : value.key? heap = none := by
  by_contra hkey
  exact hlist (list?_eq_none_of_key? (Option.isSome_iff_ne_none.mpr hkey))

end Value

/-! ### The last entry of a key -/

/-- After entries were inserted one after another, a key that one of them has is found with the value of
the last one that has it. -/
theorem Table.find?_merge {entries : List Entry} {key : Key}
    (hfound : ∃ entry ∈ entries, entry.key = key) :
    ∃ last, Entry.IsLast (·.key = key) entries last ∧
      (Table.merge [] entries).find? key = some last.value := by
  induction entries using List.reverseRecOn with
  | nil =>
    obtain ⟨entry, hentry, -⟩ := hfound
    cases hentry
  | append_singleton entries added ih =>
    rw [Table.merge_concat, Table.find?_insert]
    by_cases hkey : added.key = key
    · exact ⟨added, .of_last hkey, if_pos hkey⟩
    · obtain ⟨entry, hentry, hsame⟩ := hfound
      have hold : entry ∈ entries := (List.mem_append.mp hentry).resolve_right fun hlast ↦
        hkey (List.mem_singleton.mp hlast ▸ hsame)
      obtain ⟨last, hlast, hvalue⟩ := ih ⟨entry, hold, hsame⟩
      exact ⟨last, hlast.append hkey, (if_neg hkey).trans hvalue⟩

namespace Eval

/-! ### The pairs of a literal -/

/-- What the evaluation of a pair of a table literal gives: the name, the name frozen, and the value, on
the machine that is left. -/
structure GivenPair where
  name : Value
  plain : Value
  stored : Value
  ready : Machine

section

variable (library : Library) (depth : Nat) (mark : Mark) (pairs : List (Tree × Tree))
  (machine : Machine)

/-- The pair at a place of a table literal is evaluated, where the pairs before it have left the
machine. -/
def GivesPair (place : Nat) (given : GivenPair) : Prop :=
  ∃ pair gathered reached, pairs[place]? = some pair ∧
    tableEntries (engine library (depth + 1))
        (Site.childrenFrom mark 0 ((pairs.take place).map pairNode)) [] machine =
      (.value gathered, reached) ∧
    EvaluatesPair (engine library depth) (mark.child place) pair reached given.name given.stored
      given.ready ∧
    given.name.Freezes given.ready.memory.heap given.plain

/-- The pair at a place is the last of a table literal with a frozen name that is equal to a given
one. -/
def IsLastPair (plain : Value) (place : Nat) (last : GivenPair) : Prop :=
  GivesPair library depth mark pairs machine place last ∧ last.plain.Equals plain ∧
    ∀ later other, place < later → GivesPair library depth mark pairs machine later other →
      ¬ other.plain.Equals plain

end

/-- The member that looks up. -/
def lookUpName : Tree := .leaf (.text Operator.index.name)

/-- Sending a member is granted and traced, and what it does then begins on the machine reached. -/
def Admits (library : Library) (engine : Engine) (receiver : Value) (member : Tree)
    (arguments : List Value) (block : Option Value) (node receiverNode : Tree)
    (sent reached : Machine) : Prop :=
  ∃ granted, authorize library engine receiver member node sent = (.value (), granted) ∧
    trace receiver member arguments block receiverNode granted = (.value (), reached)

/-- Sending `[]` to a table with one argument ends so, whenever the table is what it is on one machine,
and the argument is as a key what it is on another. -/
def AnswersLookUp (library : Library) (table : Value) (after ready : Machine) (argument : Value)
    (outcome : Outcome Value) : Prop :=
  ∀ engine block node receiverNode sent reached,
    Admits library engine table lookUpName [argument] block node receiverNode sent reached →
    reached.memory.cell? table = after.memory.cell? table →
    argument.key? reached.memory.heap = argument.key? ready.memory.heap →
    dispatch library engine table lookUpName [argument] block node receiverNode sent =
      (outcome, reached.noted (.invocation table lookUpName [argument] block))

variable {library : Library} {depth : Nat} {mark : Mark} {pairs : List (Tree × Tree)}
  {machine : Machine} {place : Nat} {given other : GivenPair}

/-- The evaluation of a pair has one result. -/
theorem EvaluatesPair.unique {engine : Engine} {pair : Tree × Tree} {name name' stored stored' : Value}
    {ready ready' : Machine} (hpair : EvaluatesPair engine mark pair machine name stored ready)
    (hother : EvaluatesPair engine mark pair machine name' stored' ready') :
    name = name' ∧ stored = stored' ∧ ready = ready' := by
  obtain ⟨named, hname, hstored⟩ := hpair
  obtain ⟨named', hname', hstored'⟩ := hother
  obtain ⟨hresult, rfl⟩ := Prod.mk.inj (hname.symm.trans hname')
  obtain ⟨hvalue, hready⟩ := Prod.mk.inj (hstored.symm.trans hstored')
  exact ⟨Outcome.value.inj hresult, Outcome.value.inj hvalue, hready⟩

namespace GivesPair

theorem lt_length (hgives : GivesPair library depth mark pairs machine place given) :
    place < pairs.length := by
  obtain ⟨pair, gathered, reached, hpair, -⟩ := hgives
  exact (List.getElem?_eq_some_iff.mp hpair).1

/-- The pair at a place gives one value, and names of one key. -/
theorem unique (hgives : GivesPair library depth mark pairs machine place given)
    (hother : GivesPair library depth mark pairs machine place other) :
    given.stored = other.stored ∧
      given.plain.key? given.ready.memory.heap = other.plain.key? other.ready.memory.heap := by
  obtain ⟨pair, gathered, reached, hpair, hrun, hevaluates, hfreezes⟩ := hgives
  obtain ⟨pair', gathered', reached', hpair', hrun', hevaluates', hfreezes'⟩ := hother
  obtain rfl := Option.some_inj.mp (hpair.symm.trans hpair')
  obtain ⟨-, rfl⟩ := Prod.mk.inj (hrun.symm.trans hrun')
  obtain ⟨hname, hstored, hready⟩ := hevaluates.unique hevaluates'
  rw [← hname, ← hready] at hfreezes'
  exact ⟨hstored, by rw [← hready, hfreezes.key?_eq hfreezes']⟩

/-- More pairs behind do not change what a pair gives. -/
theorem append_iff (hplace : place < pairs.length) (more : List (Tree × Tree)) :
    GivesPair library depth mark (pairs ++ more) machine place given ↔
      GivesPair library depth mark pairs machine place given := by
  unfold GivesPair
  rw [List.getElem?_append_left hplace, List.take_append_of_le_length hplace.le]

end GivesPair

theorem childrenFrom_append (mark : Mark) (place : Nat) (front back : List Tree) :
    Site.childrenFrom mark place (front ++ back) =
      Site.childrenFrom mark place front ++ Site.childrenFrom mark (place + front.length) back := by
  induction front generalizing place with
  | nil => rfl
  | cons tree rest ih =>
    rw [List.cons_append, Site.childrenFrom, ih, Site.childrenFrom, List.cons_append,
      List.length_cons, Nat.add_assoc, Nat.add_comm 1]

/-- Pairs that come to a table come to one half way, too. -/
theorem exists_tableEntries_of_append {engine : Engine} {front back : List Site}
    {table gathered : Table} {last : Machine}
    (hrun : tableEntries engine (front ++ back) table machine = (.value gathered, last)) :
    ∃ middle reached, tableEntries engine front table machine = (.value middle, reached) ∧
      tableEntries engine back middle reached = (.value gathered, last) := by
  induction front generalizing table machine with
  | nil => exact ⟨table, machine, rfl, hrun⟩
  | cons pair rest ih =>
    rw [List.cons_append, tableEntries] at hrun
    obtain ⟨item, evaluated, hitem, hrun⟩ := Run.exists_of_bind_value hrun
    obtain ⟨⟨name, stored⟩, parted, hparts, hrun⟩ := Run.exists_of_bind_value hrun
    obtain ⟨answer, answered, hanswer, hrun⟩ := Run.exists_of_bind_value hrun
    cases answer with
    | error kind => cases hrun
    | ok found =>
      obtain ⟨middle, reached, hfront, hback⟩ := ih hrun
      refine ⟨middle, reached, ?_, hback⟩
      rw [tableEntries, Run.bind_of_value hitem, Run.bind_of_value hparts]
      exact (Run.bind_of_value hanswer _).trans hfront

/-- The entries that a table literal inserts, one for each pair: the one at a place has the frozen name
and the value that the pair there gives. -/
theorem exists_entries {gathered : Table} {last : Machine}
    (hrun : tableEntries (engine library (depth + 1))
        (Site.childrenFrom mark 0 (pairs.map pairNode)) [] machine = (.value gathered, last)) :
    ∃ entries, gathered = Table.merge [] entries ∧ entries.length = pairs.length ∧
      ∀ place entry, entries[place]? = some entry →
        ∃ given, GivesPair library depth mark pairs machine place given ∧ entry.value = given.stored ∧
          given.plain.key? given.ready.memory.heap = some entry.key := by
  induction pairs using List.reverseRecOn generalizing gathered last with
  | nil =>
    exact ⟨[], (Outcome.value.inj (Prod.mk.inj hrun).1).symm, rfl, nofun⟩
  | append_singleton pairs pair ih =>
    rw [List.map_append, childrenFrom_append, Nat.zero_add, List.length_map, List.map_singleton] at hrun
    obtain ⟨middle, reached, hfront, hback⟩ := exists_tableEntries_of_append hrun
    obtain ⟨entries, rfl, hlength, hentries⟩ := ih hfront
    rcases evaluatesPair_or_stopsAtPair (engine library depth) (mark.child pairs.length) pair reached with
      ⟨name, stored, ready, hpair⟩ | ⟨outcome, after, hstops⟩
    · rcases hpair.tableEntries [] (Table.merge [] entries) with
        ⟨plain, key, memory, hfreezes, hkey, -, hinserts⟩ | ⟨failure, after, hfails, -⟩
      · obtain ⟨hgathered, -⟩ := Prod.mk.inj (hback.symm.trans hinserts)
        refine ⟨entries ++ [⟨key, plain, stored⟩], ?_, by simp [hlength], fun place entry hentry ↦ ?_⟩
        · exact (Outcome.value.inj hgathered).trans
            (Table.merge_concat [] entries ⟨key, plain, stored⟩).symm
        rcases Nat.lt_or_ge place entries.length with hplace | hplace
        · rw [List.getElem?_append_left hplace] at hentry
          obtain ⟨given, hgives, hgiven⟩ := hentries place entry hentry
          exact ⟨given, (GivesPair.append_iff (hlength ▸ hplace) [pair]).mpr hgives, hgiven⟩
        · rw [List.getElem?_append_right hplace, List.getElem?_singleton] at hentry
          split at hentry
          · next hlast =>
            obtain rfl := Option.some_inj.mp hentry
            obtain rfl : place = pairs.length := by omega
            refine ⟨⟨name, plain, stored, ready⟩, ⟨pair, Table.merge [] entries, reached, ?_, ?_, hpair,
              hfreezes⟩, rfl, hkey⟩
            · exact List.getElem?_concat_length
            · rwa [List.take_left]
          · cases hentry
      · cases hback.symm.trans hfails
    · have hvalue := Run.bind_of_value hback fun _ ↦ Run.value Value.nil
      obtain ⟨rfl, -⟩ := Prod.mk.inj ((hstops.tableEntries [] _ _).symm.trans hvalue)
      cases hstops.1

/-! ### Sending `[]` -/

/-- What is admitted is done. -/
theorem Admits.dispatch {engine : Engine} {receiver : Value} {member : Tree} {arguments : List Value}
    {block : Option Value} {node receiverNode : Tree} {sent reached : Machine}
    (hadmits : Admits library engine receiver member arguments block node receiverNode sent reached) :
    Eval.dispatch library engine receiver member arguments block node receiverNode sent =
      Run.mapFailure (Failure.locate node)
        (Run.perform engine (invoke library receiver member arguments block))
          (reached.noted (.invocation receiver member arguments block)) := by
  obtain ⟨granted, hauthorize, htrace⟩ := hadmits
  unfold Eval.dispatch
  rw [Run.bind_of_value hauthorize, Run.bind_of_value htrace]
  rfl

/-- To send `[]` with one argument to what is in a cell is to look the argument up. -/
theorem invoke_lookUp {memory : Memory} {table : Value} {cell : Cell}
    (htable : memory.cell? table = some cell) (argument : Value) (block : Option Value) :
    invoke library table lookUpName [argument] block =
      Action.compute (Operator.lookUp table argument) := by
  have hname : Operator.ofName? Operator.index.name = some .index := by decide
  change library.invoke table Operator.index.name [argument] block = _
  unfold Library.invoke
  rw [hname]
  cases table with
  | cell address => rfl
  | _ => cases htable

section

variable (engine : Engine) {α : Type} {computation : Compute α} {result : α} {cause : Cause}

theorem perform_compute_of_ok (hok : computation.run.run machine.memory = (.ok result, machine.memory)) :
    Run.perform engine (Action.compute computation) machine = (.value result, machine) := by
  unfold Action.compute
  rw [Run.perform]
  dsimp only
  rw [hok]
  rfl

theorem perform_compute_of_error
    (herror : computation.run.run machine.memory = (.error cause, machine.memory)) :
    Run.perform engine (Action.compute computation) machine = (.failed ⟨cause, none⟩, machine) := by
  unfold Action.compute
  rw [Run.perform]
  dsimp only
  rw [herror]
  rfl

end

/-- Of an argument that can be a key, its entry in a table is looked up. -/
theorem run_lookUp {memory : Memory} {table : Value} {entries : Table} {removals : List Nat}
    (htable : memory.cell? table = some (.table entries removals)) (argument : Value) :
    (Operator.lookUp table argument).run.run memory =
      (Compute.key argument >>= fun key ↦
        match entries.find? key with
        | some stored => pure stored
        | none => Compute.refuse .entry).run.run memory := by
  cases table with
  | cell address =>
    have hcell : (Compute.cell? (.cell address)).run.run memory =
        (.ok (some (.table entries removals)), memory) := by
      rw [← htable]
      rfl
    unfold Operator.lookUp
    exact Compute.run_bind_of_ok hcell _
  | _ => cases htable

/-- Taking the key of an argument changes nothing. -/
theorem run_key (argument : Value) (memory : Memory) : (Compute.key argument).run.run memory =
    ((argument.key? memory.heap).elim (.error (.plain .type)) .ok, memory) := by
  have hget : (get : Compute Memory).run.run memory = (.ok memory, memory) := rfl
  unfold Compute.key
  rw [Compute.run_bind_of_ok hget, Memory.key?]
  cases argument.key? memory.heap <;> rfl

/-- What is stored in a table under the key of an argument is found. -/
theorem run_lookUp_of_found {memory : Memory} {table argument stored : Value} {entries : Table}
    {removals : List Nat} {key : Key} (htable : memory.cell? table = some (.table entries removals))
    (hkey : argument.key? memory.heap = some key) (hfound : entries.find? key = some stored) :
    (Operator.lookUp table argument).run.run memory = (.ok stored, memory) := by
  have hrun := run_key argument memory
  rw [hkey] at hrun
  rw [run_lookUp htable, Compute.run_bind_of_ok hrun, hfound]
  rfl

/-- An argument that cannot be a key is refused by a table. -/
theorem run_lookUp_of_no_key {memory : Memory} {table argument : Value} {entries : Table}
    {removals : List Nat} (htable : memory.cell? table = some (.table entries removals))
    (hkey : argument.key? memory.heap = none) :
    (Operator.lookUp table argument).run.run memory = (.error (.plain .type), memory) := by
  have hrun := run_key argument memory
  rw [hkey] at hrun
  rw [run_lookUp htable, Compute.run_bind_of_error hrun]

section

variable {table argument stored : Value} {entries : Table} {removals : List Nat} {key : Key}
  {after ready : Machine}

theorem answersLookUp_of_found (htable : after.memory.cell? table = some (.table entries removals))
    (hkey : argument.key? ready.memory.heap = some key) (hfound : entries.find? key = some stored) :
    AnswersLookUp library table after ready argument (.value stored) := by
  intro engine block node receiverNode sent reached hadmits hsame hargument
  have hdone (event : Event) :
      Run.perform engine (Action.compute (Operator.lookUp table argument)) (reached.noted event) =
        (.value stored, reached.noted event) :=
    perform_compute_of_ok engine
      (run_lookUp_of_found (hsame.trans htable) (hargument.trans hkey) hfound)
  rw [hadmits.dispatch, Run.mapFailure, invoke_lookUp htable, hdone]

theorem answersLookUp_of_no_key (htable : after.memory.cell? table = some (.table entries removals))
    (hkey : argument.key? ready.memory.heap = none) :
    AnswersLookUp library table after ready argument (.failed ⟨.plain .type, none⟩) := by
  intro engine block node receiverNode sent reached hadmits hsame hargument
  have hrefused (event : Event) :
      Run.perform engine (Action.compute (Operator.lookUp table argument)) (reached.noted event) =
        (.failed ⟨.plain .type, none⟩, reached.noted event) :=
    perform_compute_of_error engine (run_lookUp_of_no_key (hsame.trans htable) (hargument.trans hkey))
  rw [hadmits.dispatch, Run.mapFailure, invoke_lookUp htable, hrefused]
  rfl

end

/-- Among entries that are those of the pairs of a literal, the value of the last one with the key of a
name without a not-a-number is that of the last pair whose frozen name is equal to it. -/
theorem exists_isLastPair {entries : List Entry} {key : Key} (hlength : entries.length = pairs.length)
    (hentries : ∀ place entry, entries[place]? = some entry →
      ∃ given, GivesPair library depth mark pairs machine place given ∧ entry.value = given.stored ∧
        given.plain.key? given.ready.memory.heap = some entry.key)
    (hkey : given.plain.key? given.ready.memory.heap = some key)
    (hnumber : given.plain.holdsNaN = false) {entry : Entry}
    (hlast : Entry.IsLast (·.key = key) entries entry) :
    ∃ place last, IsLastPair library depth mark pairs machine given.plain place last ∧
      last.stored = entry.value := by
  have hequals {other : GivenPair} {found : Key}
      (hother : other.plain.key? other.ready.memory.heap = some found) :
      found = key ↔ other.plain.Equals given.plain :=
    Value.key_eq_iff_equals_of_ordered hother hkey hnumber
  obtain ⟨front, back, rfl, hsame, hback⟩ := hlast
  obtain ⟨last, hgives, hvalue, hname⟩ := hentries front.length entry (by simp)
  refine ⟨front.length, last, ⟨hgives, (hequals hname).mp hsame, fun later other hlater hother ↦ ?_⟩,
    hvalue.symm⟩
  obtain ⟨place, rfl⟩ := Nat.exists_eq_add_of_lt hlater
  have hbehind : ∃ found, back[place]? = some found := by
    have hplace := hother.lt_length
    rw [← hlength, List.length_append, List.length_cons] at hplace
    exact ⟨_, List.getElem?_eq_getElem (by omega)⟩
  obtain ⟨found, hfound⟩ := hbehind
  obtain ⟨same, hsame, -, hkey⟩ := hentries (front.length + place + 1) found (by
    rwa [Nat.add_assoc, List.getElem?_append_right (Nat.le_add_right _ _), Nat.add_sub_cancel_left])
  rw [← (hother.unique hsame).2] at hkey
  exact fun hequal ↦ hback found (List.mem_of_getElem? hfound) ((hequals hkey).mpr hequal)

end Eval

/-- A table literal that ends with a table gives a name and a value for each of its pairs. Sending `[]`
with the frozen name of a pair, while the table and the name are what they were, gives the value of the
last pair whose frozen name is equal to it, unless it holds a not-a-number. The frozen name of what is
no list is the name itself. With a list, which is a name only once it is frozen, the sending fails. -/
theorem stored_pair_found {library : Library} {depth : Nat} {pairs : List (Tree × Tree)} {mark : Mark}
    {machine after : Machine} {table : Value}
    (hliteral : (Eval.engine library (depth + 2)).evaluate
      ⟨.node "hash" (pairs.map Eval.pairNode), mark⟩ machine = (.value table, after)) :
    let begun := Eval.begun (.node "hash" (pairs.map Eval.pairNode)) machine
    (∀ place < pairs.length, ∃ given, Eval.GivesPair library depth mark pairs begun place given) ∧
    ∀ place given, Eval.GivesPair library depth mark pairs begun place given →
      (given.plain.holdsNaN = false →
        ∃ lastPlace last, Eval.IsLastPair library depth mark pairs begun given.plain lastPlace last ∧
          Eval.AnswersLookUp library table after given.ready given.plain (.value last.stored)) ∧
      (given.name.list? given.ready.memory.heap = none → given.plain = given.name) ∧
      (given.name.list? given.ready.memory.heap ≠ none →
        Eval.AnswersLookUp library table after given.ready given.name
          (.failed ⟨.plain .type, none⟩)) := by
  rw [Eval.evaluate_hash] at hliteral
  obtain ⟨gathered, ready, hrun, hnew⟩ := Run.exists_of_bind_value hliteral
  obtain ⟨entries, rfl, hlength, hentries⟩ := Eval.exists_entries hrun
  have htable : after.memory.cell? table = some (.table (Table.merge [] entries) []) := by
    obtain ⟨hresult, rfl⟩ := Prod.mk.inj hnew
    rw [← Outcome.value.inj hresult]
    exact Array.getElem?_push_size
  have hentry {place : Nat} (hplace : place < pairs.length) : ∃ entry, entries[place]? = some entry :=
    ⟨_, List.getElem?_eq_getElem (hlength ▸ hplace)⟩
  refine ⟨fun place hplace ↦ ?_, fun place given hgives ↦ ⟨fun hnumber ↦ ?_, ?_, fun hlist ↦ ?_⟩⟩
  · obtain ⟨entry, hentry⟩ := hentry hplace
    obtain ⟨given, hgives, -⟩ := hentries place entry hentry
    exact ⟨given, hgives⟩
  · obtain ⟨entry, hentry⟩ := hentry hgives.lt_length
    obtain ⟨same, hsame, -, hkey⟩ := hentries place entry hentry
    rw [← (hgives.unique hsame).2] at hkey
    obtain ⟨last, hlast, hfound⟩ := Table.find?_merge ⟨entry, List.mem_of_getElem? hentry, rfl⟩
    obtain ⟨lastPlace, final, hfinal, hvalue⟩ :=
      Eval.exists_isLastPair hlength hentries hkey hnumber hlast
    rw [← hvalue] at hfound
    exact ⟨lastPlace, final, hfinal, Eval.answersLookUp_of_found htable hkey hfound⟩
  · obtain ⟨-, -, -, -, -, -, hfreezes⟩ := hgives
    exact hfreezes.eq_of_not_list
  · exact Eval.answersLookUp_of_no_key htable (Value.key?_eq_none_of_list? hlist)

/-- A symbol is equal to the text of its name: with the two as names, the text finds the value of the
symbol. -/
theorem text_finds_symbol :
    let pairs : List (Tree × Tree) :=
      [(.node "str" [.leaf (.text "key")], .node "int" [.leaf (.int 1)]),
        (.node "sym" [.leaf (.text "key")], .node "int" [.leaf (.int 2)])]
    let begun := Eval.begun (.node "hash" (pairs.map Eval.pairNode)) {}
    ∃ table after given lastPlace last,
      (Eval.engine {} 4).evaluate ⟨.node "hash" (pairs.map Eval.pairNode), .common⟩ {} =
        (.value table, after) ∧
      Eval.GivesPair {} 2 .common pairs begun 0 given ∧ given.name.text? = some "key" ∧
      given.plain = given.name ∧
      Eval.IsLastPair {} 2 .common pairs begun given.plain lastPlace last ∧
      Eval.AnswersLookUp {} table after given.ready given.plain (.value last.stored) := by
  intro pairs begun
  have hvalue : ((Eval.engine {} 4).evaluate ⟨.node "hash" (pairs.map Eval.pairNode), .common⟩
      {}).1.isValue = true := by decide +kernel
  rcases hliteral : (Eval.engine {} 4).evaluate ⟨.node "hash" (pairs.map Eval.pairNode), .common⟩ {} with
    ⟨outcome, after⟩
  rw [hliteral] at hvalue
  cases outcome with
  | value table =>
    obtain ⟨hgiven, hfound⟩ := stored_pair_found hliteral
    obtain ⟨given, hgives⟩ := hgiven 0 (by decide)
    obtain ⟨hlast, hsame, -⟩ := hfound 0 given hgives
    have hname : given.name.text? = some "key" ∧ given.name.holdsNaN = false ∧
        given.name.list? given.ready.memory.heap = none := by
      obtain ⟨pair, gathered, reached, hpair, hnone, ⟨named, hname, -⟩, -⟩ := hgives
      obtain rfl := Option.some_inj.mp hpair
      obtain rfl := (Prod.mk.inj hnone).2
      rw [← show Value.text "key" _ = given.name from Outcome.value.inj (congrArg Prod.fst hname)]
      exact ⟨rfl, rfl, rfl⟩
    have hplain := hsame hname.2.2
    obtain ⟨lastPlace, last, hlast, hanswers⟩ := hlast (hplain ▸ hname.2.1)
    exact ⟨table, after, given, lastPlace, last, rfl, hgives, hname.1, hplain, hlast, hanswers⟩
  | _ => cases hvalue

/-- A list of one item is the name of a pair, and the literal ends with a table; but sending `[]` with
that list fails, while the tuple of its item finds the pair. -/
theorem listed_name_not_found :
    let read (name : String) : Tree := .node "lvar" [.leaf (.text name)]
    let literal : Tree := .node "hash" [Eval.pairNode (read "list", .node "int" [.leaf (.int 7)])]
    let send (name : String) : Tree := .node "send" [literal, Eval.lookUpName, read name]
    let start : Machine := { memory := { heap := #[.list [.ofInt 1]] } }
    let locals := Table.ofNames [("list", .cell 0), ("tuple", .tuple [.ofInt 1] .common)]
    let outcome (tree : Tree) := (Session.run {} { locals := locals } ⟨tree, .common⟩ start).1
    (outcome literal).isValue = true ∧
      (outcome (send "list")).failure?.map (fun failure ↦ failure.cause.kind) = some .type ∧
      (outcome (send "tuple")).isValue = true := by
  decide +kernel

end Treewalk
