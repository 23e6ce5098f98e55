import BuildTool.Proofs.Path.Normal
import BuildTool.Proofs.Script.Failure
import BuildTool.Proofs.Script.Writing
import Mathlib.Data.List.Induction

/-!
# Assignments

What lines assign can be read back by references. A value is what the lines that name it make of it
in their order, each text being expanded with the values there are at its line:

    name = text         text
    name += text        old text, or " text" where nothing was
    env.name += text    old text, or "text" where nothing was

A value that is read back is not expanded again, so it may have dollar signs in it.
-/

namespace BuildTool

variable {σ : Type}

namespace Text

theorem cutChar?_append {sep : Char} {s : List Char} (h : sep ∉ s) (rest : List Char) :
    cutChar? sep (s ++ sep :: rest) = some (s, rest) := by
  induction s with
  | nil => rw [List.nil_append, cutChar?, if_pos rfl]
  | cons c s ih =>
    rw [List.mem_cons, not_or] at h
    rw [List.cons_append, cutChar?, if_neg (Ne.symm h.1), ih h.2, Option.map_some]

theorem cutChar?_eq_none {sep : Char} {s : List Char} (h : sep ∉ s) : cutChar? sep s = none := by
  induction s with
  | nil => rfl
  | cons c s ih =>
    rw [List.mem_cons, not_or] at h
    rw [cutChar?, if_neg (Ne.symm h.1), ih h.2, Option.map_none]

theorem trimBoth_eq_self {p : Char → Bool} {s : List Char} (h : ∀ c ∈ s, p c = false) :
    trimBoth p s = s := by
  have hself : ∀ {s : List Char}, (∀ c ∈ s, p c = false) → s.dropWhile p = s :=
    fun h => dropWhile_eq_self fun c hc => h c (List.mem_of_mem_head? hc)
  rw [trimBoth, hself h, hself fun c hc => h c (List.mem_reverse.mp hc), List.reverse_reverse]

/-- Lines that end with a line feed each are the lines of their text. -/
theorem lines_flatMap {ls : List (List Char)} (h : ∀ l ∈ ls, '\n' ∉ l ∧ '\r' ∉ l) :
    lines (ls.flatMap fun l => l ++ ['\n']) = ls := by
  have hpieces : splitChar '\n' (ls.flatMap fun l => l ++ ['\n']) = ls ++ [[]] := by
    induction ls with
    | nil => rfl
    | cons l ls ih =>
      have hl : ∀ c ∈ l, (c == '\n') = false := by
        intro c hc
        refine beq_eq_false_iff_ne.mpr fun he => ?_
        exact (h l List.mem_cons_self).1 (he ▸ hc)
      have hrest := ih fun l' hm => h l' (List.mem_cons_of_mem _ hm)
      rw [splitChar_eq_splitOn, List.splitOn] at hrest ⊢
      rw [List.flatMap_cons, List.append_assoc, List.singleton_append,
        List.splitOnP_append_cons_of_forall_mem hl _ (beq_self_eq_true _), hrest, List.cons_append]
  have hends : ls.map withoutLineEnd = ls := by
    rw [List.map_congr_left (g := id), List.map_id]
    intro l hl
    rw [withoutLineEnd, if_neg fun he => (h l hl).2 (List.mem_of_getLast? he)]
    rfl
  rw [lines, hpieces]
  simp [hends]

end Text

/-! ## Stores -/

/-- What can be assigned to. -/
inductive Store
  | vars
  | env
  deriving DecidableEq

theorem Bindings.get?_set (b : Bindings) (name value other : String) :
    (b.set name value).get? other = if other = name then some value else b.get? other := by
  obtain ⟨entries⟩ := b
  simp only [set, get?]
  induction entries with
  | nil =>
    rw [setIn, List.lookup_cons]
    split
    · next he => rw [if_pos (eq_of_beq he)]
    · next hne => rw [if_neg (ne_of_beq_false hne)]
  | cons entry rest ih =>
    obtain ⟨n, v⟩ := entry
    rw [setIn]
    split
    · next he =>
      subst he
      rw [List.lookup_cons, List.lookup_cons]
      cases hb : other == n with
      | true => rw [if_pos (eq_of_beq hb)]
      | false => rw [if_neg (ne_of_beq_false hb)]
    · next hne =>
      rw [List.lookup_cons, List.lookup_cons, ih]
      cases hb : other == n with
      | true =>
        have hother : other ≠ name := fun he => hne ((eq_of_beq hb).symm.trans he)
        rw [if_neg hother, if_neg hother]
      | false => rfl

namespace Plan

def value? (plan : Plan) : Store → String → Option String
  | .vars, name => plan.vars.get? name
  | .env, name => plan.env.get? name

def put (plan : Plan) (name value : String) : Store → Plan
  | .vars => { plan with vars := plan.vars.assign name value }
  | .env => { plan with env := plan.env.set name value }

@[simp] theorem graph_put (plan : Plan) (name value : String) (store : Store) :
    (plan.put name value store).graph = plan.graph := by
  cases store <;> rfl

theorem value?_put (plan : Plan) (name value : String) (store store' : Store) (other : String) :
    (plan.put name value store).value? store' other =
      if store = store' ∧ name = other then some value else plan.value? store' other := by
  have hset := fun b : Bindings => b.get?_set name value other
  cases store <;> cases store' <;>
    simp [put, value?, Variables.get?, Variables.assign, Environment.get?, Environment.set, hset,
      eq_comm]

end Plan

/-! ## References -/

theorem Reference.pieces_braced {name : List Char} (hne : name ≠ []) (h : '}' ∉ name) :
    pieces ('$' :: '{' :: (name ++ ['}'])) = [.reference name] := by
  have hopen : opening ('{' :: (name ++ ['}'])) = .name name [] := by
    rw [opening, Text.cutChar?_append h []]
    split
    · next he => cases he; exact absurd rfl hne
    · next he => cases he; rfl
    · next he => cases he
  rw [pieces, if_pos rfl]
  split
  · next he =>
    rw [hopen] at he
    cases he
    rw [pieces]
  · next he => rw [hopen] at he; cases he
  · next he => rw [hopen] at he; cases he

namespace Store

/-- How a name is written on the left side of an assignment. -/
def address (store : Store) (name : String) : String :=
  match store with
  | .vars => name
  | .env => "env." ++ name

/-- A reference to a name, between braces. -/
def reference (store : Store) (name : String) : String :=
  String.ofList ('$' :: '{' :: ((store.address name).toList ++ ['}']))

/-- What an assignment makes of a value. -/
def assigned (store : Store) (append : Bool) (old : Option String) (text : String) : String :=
  match append, store, old with
  | false, _, _ => text
  | true, .env, none => text
  | true, _, old => old.getD "" ++ " " ++ text

/-- A name that can be assigned to, made of the characters of names but points. -/
structure IsName (store : Store) (name : String) : Prop where
  chars : ∀ c ∈ name.toList, Statement.isPlain c = true ∧ c ≠ '.'
  ne_empty : store = .vars → name ≠ ""

section

variable {store : Store} {name : String} (h : store.IsName name)
include h

theorem IsName.no_point : '.' ∉ name.toList := fun hm => (h.chars '.' hm).2 rfl

theorem IsName.isPlain_address : Statement.IsPlain (store.address name) := by
  cases store with
  | vars =>
    refine ⟨fun he => h.ne_empty rfl (String.toList_eq_nil_iff.mp he), ?_⟩
    intro c hc
    exact (h.chars c hc).1
  | env =>
    have hcontext : ∀ c ∈ "env.".toList, Statement.isPlain c = true :=
      List.all_eq_true.mp (by decide)
    refine ⟨by simp [address], ?_⟩
    intro c hc
    rw [address, String.toList_append] at hc
    rcases List.mem_append.mp hc with hc | hc
    · exact hcontext c hc
    · exact (h.chars c hc).1

/-- What stands before and after the point in an address. -/
theorem IsName.cutChar?_address : Text.cutChar? '.' (store.address name).toList =
    match store with
    | .vars => none
    | .env => some ("env".toList, name.toList) := by
  cases store with
  | vars => exact Text.cutChar?_eq_none h.no_point
  | env =>
    rw [address, String.toList_append]
    exact Text.cutChar?_append (by decide : '.' ∉ "env".toList) name.toList

/-- An assignment puts a value into its store. -/
theorem IsName.assign_address (plan : Plan) (text : String) (append : Bool) :
    plan.assign (store.address name) text append =
      (.ok (), plan.put name (store.assigned append (plan.value? store name) text) store) := by
  rw [Plan.assign, Text.cut?, h.cutChar?_address]
  cases store with
  | vars => cases append <;> rfl
  | env =>
    cases append with
    | false => simp [assigned, Plan.put]
    | true =>
      simp only [Option.map_some, String.ofList_toList, if_true, Environment.append, Plan.value?]
      cases plan.env.get? name <;> rfl

/-- A reference is read as the value of its name. -/
theorem IsName.expand_reference (plan : Plan) :
    plan.expand (store.reference name) = (plan.value? store name).getD "" := by
  have hplain := h.isPlain_address
  have hpieces := Reference.pieces_braced hplain.ne_nil (hplain.not_mem (by decide))
  have hblank : ∀ c ∈ (store.address name).toList, (c == ' ' || c == '\t') = false := by
    intro c hc
    have hspace : c ≠ ' ' := fun he => hplain.not_mem (by decide) (he ▸ hc)
    have htab : c ≠ '\t' := fun he => hplain.not_mem (by decide) (he ▸ hc)
    rw [beq_false_of_ne hspace, beq_false_of_ne htab]
    rfl
  have hlookup : lookupReference plan.vars plan.env (store.address name) =
      (plan.value? store name).getD "" := by
    rw [lookupReference, Text.trimBoth_eq_self hblank, h.cutChar?_address]
    cases store with
    | vars =>
      simp only [String.ofList_toList]
      rfl
    | env =>
      simp only [if_pos, String.ofList_toList]
      rfl
  rw [Plan.expand, BuildTool.expand, Reference.substitute, reference, String.toList_ofList, hpieces,
    List.flatMap_singleton, String.ofList_toList, String.ofList_toList, hlookup]

end

end Store

/-! ## Lines -/

/-- A line that assigns a text to a name. -/
structure Assignment where
  store : Store
  name : String
  append : Bool
  text : String
  deriving DecidableEq

/-- The plan after an assignment. -/
def Plan.assigned (plan : Plan) (a : Assignment) : Plan :=
  plan.put a.name (a.store.assigned a.append (plan.value? a.store a.name) (plan.expand a.text))
    a.store

namespace Assignment

def line (a : Assignment) : String :=
  Statement.write (a.store.address a.name) " " (if a.append then .append else .assign) " " a.text

def script (as : List Assignment) : String := String.join (as.map fun a => a.line ++ "\n")

/-- An assignment that can be written on a line. -/
structure IsWritten (a : Assignment) : Prop where
  name : a.store.IsName a.name
  starts : ∀ c, a.text.toList.head? = some c → Text.isBlank c = false
  oneLine : '\n' ∉ a.text.toList ∧ '\r' ∉ a.text.toList

theorem IsWritten.step_line {a : Assignment} (h : a.IsWritten) (print : Printer σ) (plan : Plan)
    (out : σ) : Script.step print a.line (plan, out) = (.ok (), plan.assigned a, out) := by
  have hgap : Statement.IsGap " " := List.all_eq_true.mp (by decide)
  have hrelate : plan.relate (a.store.address a.name) (if a.append then .append else .assign)
      (plan.expand a.text) = plan.assign (a.store.address a.name) (plan.expand a.text) a.append := by
    cases a.append <;> rfl
  rw [line, Script.step_write _ h.name.isPlain_address hgap hgap ⟨h.starts, h.oneLine.1⟩, hrelate,
    h.name.assign_address, Plan.assigned]

theorem IsWritten.not_mem_line {a : Assignment} (h : a.IsWritten) :
    '\n' ∉ a.line.toList ∧ '\r' ∉ a.line.toList := by
  have hplain := h.name.isPlain_address
  have hfeed := hplain.not_mem (c := '\n') (by decide)
  have hreturn := hplain.not_mem (c := '\r') (by decide)
  obtain ⟨htext, htext'⟩ := h.oneLine
  simp only [line, Statement.write]
  cases a.append <;> simp [Operator.symbol, hfeed, hreturn, htext, htext']

theorem lines_script {as : List Assignment} (h : ∀ a ∈ as, a.IsWritten) :
    Script.lines (script as) = as.map line := by
  have hlines : (script as).toList = (as.map fun a => a.line.toList).flatMap (· ++ ['\n']) := by
    simp [script, String.toList_join, List.flatMap_map]
  have hmem : ∀ l ∈ as.map (fun a => a.line.toList), '\n' ∉ l ∧ '\r' ∉ l := by
    intro l hl
    obtain ⟨a, ha, rfl⟩ := List.mem_map.mp hl
    exact (h a ha).not_mem_line
  rw [Script.lines, hlines, Text.lines_flatMap hmem, List.map_map]
  simp [Function.comp_def]

/-- A script that is made of assignments carries out each of them. -/
theorem runWith_script {as : List Assignment} (h : ∀ a ∈ as, a.IsWritten) (print : Printer σ)
    (plan : Plan) (out : σ) :
    Script.runWith print (script as) (plan, out) = (none, as.foldl Plan.assigned plan, out) := by
  rw [Script.runWith, lines_script h]
  generalize 1 = number
  induction as generalizing plan number with
  | nil => rfl
  | cons a as ih =>
    rw [List.map_cons, Script.steps, (h a List.mem_cons_self).step_line]
    exact ih (fun b hb => h b (List.mem_cons_of_mem _ hb)) (plan.assigned a) (number + 1)

/-! ## Values -/

/-- The assignment names this name. -/
def Names (store : Store) (name : String) (a : Assignment) : Prop :=
  a.store = store ∧ a.name = name

instance (store : Store) (name : String) (a : Assignment) : Decidable (a.Names store name) :=
  inferInstanceAs (Decidable (_ ∧ _))

theorem value?_assigned (plan : Plan) (a : Assignment) (store : Store) (name : String) :
    (plan.assigned a).value? store name =
      if a.Names store name then
        some (store.assigned a.append (plan.value? store name) (plan.expand a.text))
      else plan.value? store name := by
  rw [Plan.assigned, Plan.value?_put]
  by_cases h : a.Names store name
  · obtain ⟨rfl, rfl⟩ := h
    rw [if_pos ⟨rfl, rfl⟩, if_pos ⟨rfl, rfl⟩]
  · rw [if_neg h]
    exact if_neg h

/-- A value is what the assignments to its name make of it in their order, with each text expanded
in the plan that there is at its line. -/
theorem value?_foldl (plan : Plan) (as : List Assignment) (store : Store) (name : String) :
    (as.foldl Plan.assigned plan).value? store name =
      (as.zipIdx.filter fun p => p.1.Names store name).foldl
        (fun old p => some (store.assigned p.1.append old
          (((as.take p.2).foldl Plan.assigned plan).expand p.1.text)))
        (plan.value? store name) := by
  induction as using List.reverseRecOn with
  | nil => rfl
  | append_singleton as a ih =>
    have hbefore : ∀ p ∈ as.zipIdx.filter fun p => p.1.Names store name,
        (as ++ [a]).take p.2 = as.take p.2 := by
      intro p hp
      have hlt := List.snd_lt_of_mem_zipIdx (List.mem_of_mem_filter hp)
      exact List.take_append_of_le_length (by omega)
    rw [List.foldl_append, List.foldl_cons, List.foldl_nil, value?_assigned, ih,
      List.zipIdx_append, List.filter_append, List.foldl_append]
    rw [List.foldl_ext _ _ _ fun old p hp => by rw [← hbefore p hp]]
    have hlast : (as ++ [a]).take (0 + as.length) = as := by simp
    by_cases hnames : a.Names store name
    · rw [if_pos hnames, List.zipIdx_singleton, List.filter_singleton]
      simp [hnames]
    · rw [if_neg hnames, List.zipIdx_singleton, List.filter_singleton]
      simp [hnames]

/-- A script that is made of assignments is carried out without an error, changes neither the
targets nor what was printed, and gives each name the value that the assignments to it make of its
old one, in their order, with each text expanded in the plan that there is at its line. A name that
is not assigned to keeps its value. A reference is read as the value of its name as it stands. -/
theorem assignments_read_back (print : Printer σ) (plan : Plan) (out : σ) {as : List Assignment}
    (h : ∀ a ∈ as, a.IsWritten) :
    let after n := (Script.runWith print (script (as.take n)) (plan, out)).2.1
    Script.runWith print (script as) (plan, out) = (none, after as.length, out) ∧
      (after as.length).graph = plan.graph ∧
      ∀ store name,
        (after as.length).value? store name =
          (as.zipIdx.filter fun p => p.1.Names store name).foldl
            (fun old p => some (store.assigned p.1.append old ((after p.2).expand p.1.text)))
            (plan.value? store name) ∧
        ((∀ a ∈ as, ¬a.Names store name) →
          (after as.length).value? store name = plan.value? store name) ∧
        (store.IsName name →
          (after as.length).expand (store.reference name) =
            ((after as.length).value? store name).getD "") := by
  intro after
  have hafter : ∀ n, after n = (as.take n).foldl Plan.assigned plan := by
    intro n
    have htake : ∀ a ∈ as.take n, a.IsWritten := fun a ha => h a (List.mem_of_mem_take ha)
    exact congrArg (fun done => done.2.1) (runWith_script htake print plan out)
  have hall : after as.length = as.foldl Plan.assigned plan := by
    rw [hafter, List.take_length]
  have hgraph : (as.foldl Plan.assigned plan).graph = plan.graph := by
    clear h after hafter hall
    induction as generalizing plan with
    | nil => rfl
    | cons a as ih => exact (ih (plan.assigned a)).trans (Plan.graph_put _ _ _ _)
  refine ⟨?_, hall ▸ hgraph, ?_⟩
  · rw [runWith_script h, hall]
  · intro store name
    have hvalue := value?_foldl plan as store name
    rw [hall]
    refine ⟨?_, ?_, fun hname => hname.expand_reference _⟩
    · simp only [hafter]
      exact hvalue
    · intro hnone
      have hfilter : (as.zipIdx.filter fun p => p.1.Names store name) = [] := by
        refine List.filter_eq_nil_iff.mpr fun p hp => ?_
        simpa using hnone p.1 (List.fst_mem_of_mem_zipIdx hp)
      rw [hvalue, hfilter, List.foldl_nil]

/-- By the theorem, a reference that an expanded text makes up is not expanded when it is read. -/
theorem assignments_read_back_dollars :
    let as : List Assignment := [⟨.vars, "d", false, "$"⟩,
      ⟨.env, "p-q", true, "$d\x7bd\x7d"⟩, ⟨.env, "p-q", true, "$d"⟩]
    let done := Script.runWith (Printer.ofSay fun _ out => .ok out) (script as) ({}, ())
    done.1 = none ∧ done.2.1.expand (Store.env.reference "p-q") = "$\x7bd\x7d $" ∧
      done.2.1.value? .vars "e" = none := by
  intro as done
  have hchars : ∀ a ∈ as, a.name.toList.all (fun c => Statement.isPlain c && c != '.') = true := by
    decide
  have hnames : ∀ a ∈ as, a.store.IsName a.name := by
    intro a ha
    refine ⟨fun c hc => ?_, fun _ => ?_⟩
    · simpa using List.all_eq_true.mp (hchars a ha) c hc
    · revert a
      decide
  have hstarts : ∀ a ∈ as, a.text.toList.head?.all (fun c => !Text.isBlank c) = true := by decide
  have hlines : ∀ a ∈ as, '\n' ∉ a.text.toList ∧ '\r' ∉ a.text.toList := by decide
  have h : ∀ a ∈ as, a.IsWritten := by
    intro a ha
    refine ⟨hnames a ha, fun c hc => ?_, hlines a ha⟩
    simpa [hc] using hstarts a ha
  obtain ⟨hrun, -, hvalues⟩ := assignments_read_back (Printer.ofSay fun _ out => .ok out) {} () h
  have hread := (hvalues .env "p-q").2.2 (hnames ⟨.env, "p-q", true, "$d"⟩ (by decide))
  have hkeep := (hvalues .vars "e").2.1 (by decide)
  refine ⟨congrArg Prod.fst hrun, hread.trans ?_, hkeep⟩
  decide +kernel

end Assignment

end BuildTool
