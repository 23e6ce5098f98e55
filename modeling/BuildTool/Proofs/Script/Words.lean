import BuildTool.Proofs.Graph.Declaration
import BuildTool.Proofs.Script.Spelling
import BuildTool.Proofs.Script.Writing
import BuildTool.Session

/-!
# Words as they are written

Every list of words can be written down, whatever characters they are made of, as long as none is
empty: each between quotes, with a backslash before a quote or a backslash, and `\n` for a line
feed.

    splitWords? (write words)  =  words

So every dependency list and every command can be written into a script, but for words with a
dollar sign, which is where a reference begins.
-/

namespace BuildTool

variable {σ : Type}

namespace Words

/-! ## Reading what is written -/

/-- Written words are read as they are. -/
theorem splitWords?_write {words : List String} (hne : ∀ w ∈ words, w ≠ "") :
    splitWords? (write words) = some words := by
  have hkept : words.filter (· ≠ "") = words :=
    List.filter_eq_self.mpr fun w hw => by simpa using hne w hw
  have hsplit := (writes_write words).splitWords?_eq
  rwa [String.ofList_toList, hkept] at hsplit

/-! ## What written words are made of -/

theorem head?_write {words : List String} {c : Char} (h : (write words).toList.head? = some c) :
    c = '"' := by
  cases words with
  | nil => cases h
  | cons w rest =>
    rw [toList_write_cons, quote, String.toList_ofList] at h
    cases h
    rfl

theorem not_mem_escape {c d : Char} (hd : d ∉ ['"', '\\', 'n']) (h : d = '\n' ∨ d ≠ c) :
    d ∉ escape c := by
  simp only [List.mem_cons, List.not_mem_nil, or_false, not_or] at hd
  unfold escape
  split
  · simp [hd]
  · split
    · simp [hd]
    · split
      · simp [hd]
      · next hfeed =>
        rcases h with rfl | hne
        · simpa using Ne.symm hfeed
        · simpa using hne

/-- Writing words brings in no characters but its own, and no line feed. -/
theorem not_mem_write {words : List String} {d : Char} (hd : d ∉ ['"', '\\', 'n', ' '])
    (h : d = '\n' ∨ ∀ w ∈ words, d ∉ w.toList) : d ∉ (write words).toList := by
  have hspace : d ≠ ' ' := fun he => hd (by simp [he])
  have hquote : d ≠ '"' := fun he => hd (by simp [he])
  have hescape : d ∉ ['"', '\\', 'n'] := fun hm => hd (List.mem_append_left [' '] hm)
  induction words with
  | nil => exact List.not_mem_nil
  | cons w rest ih =>
    have hw : d ∉ (quote w).toList := by
      rw [quote, String.toList_ofList, List.mem_cons, List.mem_append, List.mem_singleton,
        List.mem_flatMap]
      rintro (he | ⟨c, hc, hm⟩ | he)
      · exact hquote he
      · refine not_mem_escape hescape (h.imp id fun hwords he => ?_) hm
        exact hwords w List.mem_cons_self (he ▸ hc)
      · exact hquote he
    have hrest : d ∉ (write rest).toList :=
      ih (h.imp id fun hwords w' hm => hwords w' (List.mem_cons_of_mem _ hm))
    rw [toList_write_cons, List.mem_append, not_or]
    refine ⟨hw, ?_⟩
    split
    · exact List.not_mem_nil
    · rw [List.mem_cons, not_or]
      exact ⟨hspace, hrest⟩

theorem isRight_write (words : List String) : Statement.IsRight (write words) where
  starts c h := by
    rw [head?_write h]
    decide
  oneLine := not_mem_write (by decide) (Or.inl rfl)

/-! ## Dependency lists and commands -/

def writeDependencies (force : Bool) (words : List String) : String :=
  (if force then "!" else "") ++ write words

theorem readDependencies_writeDependencies (force : Bool) {words : List String}
    (hne : ∀ w ∈ words, w ≠ "") :
    Plan.readDependencies (writeDependencies force words) = .ok (force, words) := by
  have hmark : ∀ c, (write words).toList.head? = some c → (c == '!') = false := by
    intro c h
    rw [head?_write h]
    decide
  have hwords : (write words).toList.dropWhile (· == '!') = (write words).toList :=
    Text.dropWhile_eq_self hmark
  cases force with
  | false =>
    have hstart : (writeDependencies false words).toList.dropWhile Text.isBlank =
        (write words).toList := by
      rw [writeDependencies, if_neg Bool.false_ne_true, String.empty_append]
      exact Text.dropWhile_eq_self (isRight_write words).starts
    have hforce : ((write words).toList.head? == some '!') = false := by
      refine Bool.eq_false_iff.mpr fun h => ?_
      have := hmark '!' (eq_of_beq h)
      cases this
    simp only [Plan.readDependencies, hstart, hwords, String.ofList_toList, hforce,
      splitWords?_write hne]
  | true =>
    have hstart : (writeDependencies true words).toList.dropWhile Text.isBlank =
        '!' :: (write words).toList := by
      rw [writeDependencies, if_pos rfl, String.toList_append]
      rfl
    have hrest : ('!' :: (write words).toList).dropWhile (· == '!') = (write words).toList := by
      rw [List.dropWhile_cons_of_pos rfl, hwords]
    simp only [Plan.readDependencies, hstart, hrest, String.ofList_toList, splitWords?_write hne,
      List.head?_cons, beq_self_eq_true]

theorem isRight_writeDependencies (force : Bool) (words : List String) :
    Statement.IsRight (writeDependencies force words) := by
  cases force with
  | false =>
    rw [writeDependencies, if_neg Bool.false_ne_true, String.empty_append]
    exact isRight_write words
  | true =>
    refine ⟨?_, ?_⟩
    · intro c h
      rw [writeDependencies, if_pos rfl, String.toList_append] at h
      cases h
      decide
    · rw [writeDependencies, if_pos rfl, String.toList_append, List.mem_append, not_or]
      exact ⟨by decide, (isRight_write words).oneLine⟩

/-- Every list of words without dollar signs can be written as a dependency list, forced or not,
and as a command. Written after a colon it adds each word, cleaned, to what the target depends on,
and forces the target only if it is to be forced. Written after `<-` it is kept as one command of
the target, which is run as the first word with the other words as its arguments. -/
theorem written_words_are_read (print : Printer σ) (plan : Plan) (out : σ)
    {name gap gap' : String} {words : List String} (force : Bool)
    (hname : Statement.IsPlain name) (hgap : Statement.IsGap gap) (hgap' : Statement.IsGap gap')
    (hne : ∀ w ∈ words, w ≠ "") (hdollar : ∀ w ∈ words, '$' ∉ w.toList) :
    let target := plan.graph.targetOf (Path.clean name)
    (∃ g, Script.step print
          (Statement.write name gap .depends gap' (writeDependencies force words)) (plan, out) =
        (.ok (), { plan with graph := g }, out) ∧
      ∀ other, g.find? other = if other = Path.clean name then
        some { target with
          force := target.force || force
          dependencies := target.dependencies ++ words.map Path.clean }
        else plan.graph.find? other) ∧
    (∃ g, Script.step print (Statement.write name gap .command gap' (write words)) (plan, out) =
        (.ok (), { plan with graph := g }, out) ∧
      ∀ other, g.find? other = if other = Path.clean name then
        some { target with commands := target.commands ++ [write words] }
        else plan.graph.find? other) ∧
    splitWords? (write words) = some words ∧
    ∀ nested (s : Session) owner program arguments w, words = program :: arguments →
      s.dryRun = false →
      s.runCommand nested owner (write words) w =
        s.perform nested owner (Command.ofWords program arguments)
          (w.note s.logger ("Running command " ++ Text.quoted program ++ " with args " ++
            Text.quotedList arguments)) := by
  intro target
  have hwrite : '$' ∉ (write words).toList := not_mem_write (by decide) (Or.inr hdollar)
  have hlist : '$' ∉ (writeDependencies force words).toList := by
    rw [writeDependencies, String.toList_append, List.mem_append, not_or]
    refine ⟨?_, hwrite⟩
    cases force <;> decide
  refine ⟨?_, ?_, splitWords?_write hne, ?_⟩
  · let change (t : Target) : Target :=
      { t with force := t.force || force, dependencies := t.dependencies ++ words.map Path.clean }
    refine ⟨plan.graph.update (Path.clean name) change, ?_,
      fun other => Graph.find?_update _ _ other change⟩
    rw [Script.step_write .depends hname hgap hgap' (isRight_writeDependencies force words),
      plan.expand_of_not_mem hlist]
    simp only [Plan.relate, Plan.declare, readDependencies_writeDependencies force hne]
    rfl
  · let change (t : Target) : Target := { t with commands := t.commands ++ [write words] }
    refine ⟨plan.graph.update (Path.clean name) change, ?_,
      fun other => Graph.find?_update _ _ other change⟩
    rw [Script.step_write .command hname hgap hgap' (isRight_write words),
      plan.expand_of_not_mem hwrite]
    rfl
  · intro nested s owner program arguments w hwords hdry
    have hsplit := splitWords?_write hne
    subst hwords
    simp only [Session.runCommand, hdry, hsplit]
    rfl

/-- By the theorem, words that begin with a mark, end with a backslash or hold quotes, operators
and line feeds are read as they are. -/
theorem written_words_are_read_marks :
    let words := ["!b", "a \"=\" <- #c\\", "x\ty\n"]
    (∃ g, Script.step (Printer.ofSay fun _ out => .ok out)
        (Statement.write "out/a.b" "" .depends "\t" (writeDependencies false words)) ({}, ()) =
          (.ok (), { graph := g }, ()) ∧
      g.find? "out/a.b" = some { name := "out/a.b", dependencies := words }) ∧
    splitWords? (write words) = some words := by
  intro words
  have hname : Statement.IsPlain "out/a.b" := ⟨by decide, List.all_eq_true.mp (by decide)⟩
  have hgap : Statement.IsGap "" := fun _ hc => nomatch hc
  have hgap' : Statement.IsGap "\t" := List.all_eq_true.mp (by decide)
  have hne : ∀ w ∈ words, w ≠ "" := by decide
  have hdollar : ∀ w ∈ words, '$' ∉ w.toList := by decide
  obtain ⟨⟨g, hstep, hfind⟩, -, hsplit, -⟩ := written_words_are_read
    (Printer.ofSay fun _ out => .ok out) {} () false hname hgap hgap' hne hdollar
  refine ⟨⟨g, hstep, ?_⟩, hsplit⟩
  rw [hfind, if_pos (by decide +kernel)]
  decide +kernel

end Words

end BuildTool
