import BuildTool.Arguments
import BuildTool.Proofs.Text.Cut
import Mathlib.Data.List.Pairwise
import Mathlib.Data.List.Perm.Basic

/-!
# Arguments in any arrangement

What is asked of a run is a matter of a few things that are given or not (`Request`). The arguments
say them in any order and in several ways, and flags share an argument with each other and with
one option behind them:

    -n -f child.bygg -vv lib
    --file=child.bygg lib -vnv
    -vvnfchild.bygg lib

An option whose value is the next argument waits for it, and settles only when something else is
read. So what is read is compared with what it amounts to (`AmountsTo`), which every argument
extends by the items that it says. Items that may be given together do not depend on their order
(`note_comm`).
-/

namespace BuildTool

def ValueOption.long : ValueOption → String
  | .file => "file"
  | .directory => "directory"
  | .settings => "config"

def ValueOption.letter? : ValueOption → Option Char
  | .file => some 'f'
  | .directory => some 'C'
  | .settings => none

def Flag.long? : Flag → Option String
  | .dryRun => some "dry-run"
  | .verbose => none
  | .watch => some "watch"
  | .help => some "help"
  | .version => some "version"

def Flag.letter : Flag → Char
  | .dryRun => 'n'
  | .verbose => 'v'
  | .watch => 'w'
  | .help => 'h'
  | .version => 'V'

namespace Arguments

/-! ## What is asked for, and how it is written -/

/-- One thing that arguments say. -/
inductive Item
  | value (option : ValueOption) (value : String)
  | flag (flag : Flag)
  | target (target : String)
  deriving DecidableEq

/-- What is asked of a run: each value at most once, and `-v` so many times. -/
structure Request where
  file : Option String := none
  directory : Option String := none
  settings : Option String := none
  target : Option String := none
  dryRun : Bool := false
  watch : Bool := false
  verbosity : Nat := 0

namespace Request

/-- The items that are asked for, in one order among others. -/
def items (r : Request) : List Item :=
  List.replicate r.verbosity (.flag .verbose) ++
    (if r.dryRun then [.flag .dryRun] else []) ++ (if r.watch then [.flag .watch] else []) ++
    r.file.toList.map (.value .file) ++ r.directory.toList.map (.value .directory) ++
    r.settings.toList.map (.value .settings) ++ r.target.toList.map .target

/-- The configuration that is asked for: what is given, and the usual for what is not. -/
def config (r : Request) : BuildConfig where
  file := r.file.getD "byggfil"
  baseDir := r.directory.getD "."
  target := r.target.getD "all"
  dryRun := r.dryRun
  verbose := 1 ≤ r.verbosity
  veryVerbose := 2 ≤ r.verbosity
  watch := r.watch

end Request

/-- A text that can stand behind anything: it begins neither with a hyphen nor with an equals
sign. -/
def IsBare (text : String) : Prop := ∀ c, text.toList.head? = some c → c ≠ '-' ∧ c ≠ '='

/-- A value is not empty, and values and targets can stand behind anything. -/
def Item.IsPlain : Item → Prop
  | .value _ text => text ≠ "" ∧ IsBare text
  | .flag _ => True
  | .target text => IsBare text

/-- One argument, or an option and its value, and the items that they say. -/
inductive Says : List String → List Item → Prop
  | target (target : String) : Says [target] [.target target]
  | longFlag {flag : Flag} {name : String} : flag.long? = some name →
      Says ["--" ++ name] [.flag flag]
  | longJoined (option : ValueOption) (value : String) :
      Says ["--" ++ (option.long ++ "=" ++ value)] [.value option value]
  | longBefore (option : ValueOption) (value : String) :
      Says ["--" ++ option.long, value] [.value option value]
  | flags {flags : List Flag} : flags ≠ [] →
      Says [.ofList ('-' :: flags.map Flag.letter)] (flags.map .flag)
  | shortClose (flags : List Flag) {option : ValueOption} {letter : Char} (value : String) :
      option.letter? = some letter →
      Says [.ofList ('-' :: (flags.map Flag.letter ++ letter :: value.toList))]
        (flags.map .flag ++ [.value option value])
  | shortJoined (flags : List Flag) {option : ValueOption} {letter : Char} (value : String) :
      option.letter? = some letter →
      Says [.ofList ('-' :: (flags.map Flag.letter ++ letter :: '=' :: value.toList))]
        (flags.map .flag ++ [.value option value])
  | shortBefore (flags : List Flag) {option : ValueOption} {letter : Char} (value : String) :
      option.letter? = some letter →
      Says [.ofList ('-' :: (flags.map Flag.letter ++ [letter])), value]
        (flags.map .flag ++ [.value option value])

/-- Arguments that say these items one after the other. -/
inductive Spells : List String → List Item → Prop
  | nil : Spells [] []
  | append {here rest : List String} {items others : List Item} :
      Says here items → Spells rest others → Spells (here ++ rest) (items ++ others)

/-! ## What arguments amount to -/

/-- The arguments with an item more. -/
def note (a : Arguments) : Item → Arguments
  | .value .file value => { a with file := some value }
  | .value .directory value => { a with directory := some value }
  | .value .settings value => { a with settings := some value }
  | .flag .dryRun => { a with dryRun := true }
  | .flag .watch => { a with watch := true }
  | .flag .verbose => { a with verbosity := min (a.verbosity + 1) 255 }
  | .flag .help => a
  | .flag .version => a
  | .target target => { a with target := some target }

/-- An item may still be given. -/
def IsOpen (a : Arguments) : Item → Prop
  | .value option _ => a.value? option = none
  | .flag .dryRun => a.dryRun = false
  | .flag .watch => a.watch = false
  | .flag .verbose => True
  | .flag .help => False
  | .flag .version => False
  | .target _ => a.target = none

/-- Items may still be given one after the other. -/
def AllOpen : Arguments → List Item → Prop
  | _, [] => True
  | a, item :: items => a.IsOpen item ∧ (a.note item).AllOpen items

/-- Once the option that waits is settled, if one does, the arguments read so far are these. -/
structure AmountsTo (a b : Arguments) : Prop where
  settle_eq : a.settle = .ok b
  target_eq : a.target = b.target
  onlyTargets_eq : a.onlyTargets = false
  pending_eq : b.pending = none
  goesOn : b.onlyTargets = false

section

variable {a b : Arguments} {item : Item} {items more : List Item}

theorem allOpen_append :
    a.AllOpen (items ++ more) ↔ a.AllOpen items ∧ (items.foldl note a).AllOpen more := by
  induction items generalizing a with
  | nil => simp [AllOpen]
  | cons item items ih => simp only [List.cons_append, AllOpen, ih, List.foldl_cons, and_assoc]

@[simp] theorem pending_note (a : Arguments) (item : Item) : (a.note item).pending = a.pending := by
  rcases item with ⟨_ | _ | _, _⟩ | ⟨_ | _ | _ | _ | _⟩ | _ <;> rfl

@[simp] theorem onlyTargets_note (a : Arguments) (item : Item) :
    (a.note item).onlyTargets = a.onlyTargets := by
  rcases item with ⟨_ | _ | _, _⟩ | ⟨_ | _ | _ | _ | _⟩ | _ <;> rfl

/-- Arguments with no option that waits amount to themselves. -/
theorem amountsTo_self (hpending : b.pending = none) (hgoes : b.onlyTargets = false) :
    AmountsTo b b where
  settle_eq := by rw [settle, hpending]
  target_eq := rfl
  onlyTargets_eq := hgoes
  pending_eq := hpending
  goesOn := hgoes

theorem AmountsTo.note (h : AmountsTo a b) (item : Item) :
    AmountsTo (b.note item) (b.note item) := by
  refine amountsTo_self ?_ ?_
  · rw [pending_note, h.pending_eq]
  · rw [onlyTargets_note, h.goesOn]

/-! ## One item -/

theorem give_eq {option : ValueOption} {value : String} (hopen : a.IsOpen (.value option value))
    (hvalue : value ≠ "") : a.give option value = .ok (a.note (.value option value)) := by
  have hnone : (a.value? option).isSome = false := by
    rw [show a.value? option = none from hopen]
    rfl
  unfold give
  rw [hnone, if_neg Bool.false_ne_true, if_neg hvalue]
  cases option <;> rfl

theorem raise_eq {flag : Flag} (h : AmountsTo a b) (hopen : b.IsOpen (.flag flag)) :
    a.raise flag = .ok (b.note (.flag flag)) := by
  rw [raise, h.settle_eq]
  cases flag with
  | dryRun => exact if_neg (by rw [show b.dryRun = false from hopen]; exact Bool.false_ne_true)
  | watch => exact if_neg (by rw [show b.watch = false from hopen]; exact Bool.false_ne_true)
  | verbose => rfl
  | help => exact hopen.elim
  | version => exact hopen.elim

theorem takeOption_eq {option : ValueOption} {value : String} (h : AmountsTo a b)
    (hopen : b.IsOpen (.value option value)) (hvalue : value ≠ "") :
    a.takeOption option (some value) = .ok (b.note (.value option value)) := by
  rw [takeOption, h.settle_eq]
  exact give_eq hopen hvalue

theorem takeTarget_eq {target : String} (h : AmountsTo a b) (hopen : b.IsOpen (.target target)) :
    a.takeTarget target = .ok (b.note (.target target)) := by
  have hnone : a.target.isSome = false := by
    rw [h.target_eq, show b.target = none from hopen]
    rfl
  rw [takeTarget, hnone, if_neg Bool.false_ne_true, h.settle_eq]
  rfl

/-- An argument that is no option is the target, unless an option waits for its value. -/
theorem takePlain_eq {target : String} (h : AmountsTo a b) (hopen : b.IsOpen (.target target)) :
    a.takePlain target = .ok (b.note (.target target)) := by
  unfold takePlain
  split
  · next hpending =>
    have hsettle := h.settle_eq
    rw [settle, hpending] at hsettle
    cases hsettle
  · exact takeTarget_eq h hopen

/-- An option waits for the next argument, and with it amounts to the value. -/
theorem takeOption_waits {option : ValueOption} {value : String} (h : AmountsTo a b)
    (hopen : b.IsOpen (.value option value)) (hvalue : value ≠ "") :
    ∃ waiting given, a.takeOption option none = .ok waiting ∧ waiting.onlyTargets = false ∧
      waiting.takePlain value = .ok given ∧ AmountsTo given (b.note (.value option value)) := by
  refine ⟨{ b with pending := some (option, none) },
    { b with pending := some (option, some value) }, ?_, h.goesOn, rfl, ?_⟩
  · rw [takeOption, h.settle_eq]
    rfl
  · have hback : { b with pending := none } = b := by rw [← h.pending_eq]
    refine ⟨?_, ?_, h.goesOn, (h.note _).pending_eq, (h.note _).goesOn⟩
    · show give { b with pending := none } option value = _
      rw [hback, give_eq hopen hvalue]
    · cases option <;> rfl

/-! ## One argument -/

theorem readShort_flag {flag : Flag} {rest : List Char} (h : AmountsTo a b)
    (hopen : b.IsOpen (.flag flag)) :
    a.readShort (flag.letter :: rest) = (b.note (.flag flag)).readShort rest := by
  have hflag : Flag.ofShort? flag.letter = some flag := by cases flag <;> rfl
  rw [readShort.eq_def]
  simp only [hflag, raise_eq h hopen]
  rfl

/-- Flags in front of a cluster are raised one after the other. -/
theorem readShort_flags {flags : List Flag} (h : AmountsTo a b)
    (hopen : b.AllOpen (flags.map .flag)) :
    ∃ raised, AmountsTo raised ((flags.map .flag).foldl note b) ∧
      ∀ rest, a.readShort (flags.map Flag.letter ++ rest) = raised.readShort rest := by
  induction flags generalizing a b with
  | nil => exact ⟨a, h, fun _ => rfl⟩
  | cons flag flags ih =>
    obtain ⟨hfirst, hothers⟩ := hopen
    obtain ⟨raised, hraised, hread⟩ := ih (h.note (.flag flag)) hothers
    refine ⟨raised, hraised, fun rest => ?_⟩
    rw [List.map_cons, List.cons_append, readShort_flag h hfirst, hread]

section

variable {option : ValueOption} {letter : Char} (a : Arguments) (h : option.letter? = some letter)

include h

theorem readShort_before : a.readShort [letter] = a.takeOption option none := by
  cases option <;> cases h <;> rfl

theorem readShort_joined (value : String) :
    a.readShort (letter :: '=' :: value.toList) = a.takeOption option (some value) := by
  have hback : String.ofList value.toList = value := String.ofList_toList
  cases option <;> cases h <;> exact congrArg (fun v => a.takeOption _ (some v)) hback

theorem readShort_close {value : String} (hvalue : value ≠ "") (hbare : IsBare value) :
    a.readShort (letter :: value.toList) = a.takeOption option (some value) := by
  have hback : String.ofList value.toList = value := String.ofList_toList
  obtain ⟨c, rest, hchars⟩ := List.exists_cons_of_ne_nil (mt String.toList_eq_nil_iff.mp hvalue)
  have hc : c ≠ '=' := (hbare c (by rw [hchars]; rfl)).2
  rw [hchars] at hback ⊢
  cases option <;> cases h <;> simp [readShort, Flag.ofShort?, ValueOption.ofShort?, hc, hback]

end

theorem next_letters {letters : List Char} (h : AmountsTo a b) (hne : letters ≠ [])
    (hfirst : letters.head? ≠ some '-') :
    a.next (.ofList ('-' :: letters)) = a.readShort letters := by
  obtain ⟨c, letters, rfl⟩ := List.exists_cons_of_ne_nil hne
  have hc : c ≠ '-' := fun he => hfirst (by rw [he]; rfl)
  unfold next
  rw [h.onlyTargets_eq, if_neg Bool.false_ne_true, String.toList_ofList]
  split
  · next he => exact absurd (List.cons.inj (List.cons.inj he).2).1 hc
  · next he => exact absurd (List.cons.inj (List.cons.inj he).2).1 hc
  · next he => cases he
  · next he => cases he; rfl
  · next hother => exact absurd rfl (hother _)

theorem next_long {name : String} (h : AmountsTo a b) (hne : name ≠ "") :
    a.next ("--" ++ name) = a.readLong name := by
  obtain ⟨c, rest, hname⟩ := List.exists_cons_of_ne_nil (mt String.toList_eq_nil_iff.mp hne)
  have hlist : ("--" ++ name).toList = '-' :: '-' :: c :: rest := by simp [hname]
  unfold next
  rw [h.onlyTargets_eq, if_neg Bool.false_ne_true, hlist]
  show a.readLong (.ofList (c :: rest)) = a.readLong name
  rw [← hname, String.ofList_toList]

theorem next_bare {text : String} (hgoes : a.onlyTargets = false) (hbare : IsBare text) :
    a.next text = a.takePlain text := by
  have hstart : ∀ rest, text.toList ≠ '-' :: rest := by
    intro rest he
    exact (hbare '-' (by rw [he]; rfl)).1 rfl
  unfold next
  rw [hgoes, if_neg Bool.false_ne_true]
  split
  · next he => exact absurd he (hstart _)
  · next he => exact absurd he (hstart _)
  · next he => exact absurd he (hstart _)
  · next he => exact absurd he (hstart _)
  · rfl

theorem readLong_flag {flag : Flag} {name : String} (a : Arguments) (h : flag.long? = some name) :
    a.readLong name = a.raise flag := by
  cases flag <;> cases h <;> rfl

theorem readLong_option (a : Arguments) (option : ValueOption) :
    a.readLong option.long = a.takeOption option none := by
  cases option <;> rfl

theorem readLong_joined (a : Arguments) (option : ValueOption) (value : String) :
    a.readLong (option.long ++ "=" ++ value) = a.takeOption option (some value) := by
  have hname : '=' ∉ option.long.toList := by cases option <;> decide
  have hlist : (option.long ++ "=" ++ value).toList =
      option.long.toList ++ '=' :: value.toList := by simp
  have hcut : Text.cut? '=' (option.long ++ "=" ++ value) = some (option.long, value) := by
    rw [Text.cut?, hlist, Text.cutChar?_eq_some_iff.mpr ⟨rfl, hname⟩]
    simp
  have hoption : ValueOption.ofLong? option.long = some option := by cases option <;> rfl
  unfold readLong
  simp only [hcut, hoption]

/-- What is read of a cluster once the flags in front of it are raised. -/
theorem next_cluster {flags : List Flag} (h : AmountsTo a b)
    (hopen : b.AllOpen (flags.map .flag)) :
    ∃ raised, AmountsTo raised ((flags.map .flag).foldl note b) ∧
      ∀ rest, flags.map Flag.letter ++ rest ≠ [] → rest.head? ≠ some '-' →
        a.next (.ofList ('-' :: (flags.map Flag.letter ++ rest))) = raised.readShort rest := by
  obtain ⟨raised, hraised, hread⟩ := readShort_flags h hopen
  refine ⟨raised, hraised, fun rest hne hrest => ?_⟩
  have hfirst : (flags.map Flag.letter ++ rest).head? ≠ some '-' := by
    cases flags with
    | nil => exact hrest
    | cons flag flags => cases flag <;> exact fun he => by cases he
  rw [next_letters h hne hfirst, hread]

/-- What an option takes when it stands in a cluster behind flags. -/
theorem next_clusterOption {flags : List Flag} {option : ValueOption} {letter : Char}
    {value : String} (h : AmountsTo a b) (hletter : option.letter? = some letter)
    (hopen : b.AllOpen (flags.map .flag ++ [.value option value])) :
    ∃ raised b', AmountsTo raised b' ∧ b'.IsOpen (.value option value) ∧
      List.foldl note b (flags.map .flag ++ [.value option value]) =
        b'.note (.value option value) ∧
      ∀ rest, a.next (.ofList ('-' :: (flags.map Flag.letter ++ letter :: rest))) =
        raised.readShort (letter :: rest) := by
  obtain ⟨hflags, hvalue, -⟩ := allOpen_append.mp hopen
  obtain ⟨raised, hraised, hnext⟩ := next_cluster h hflags
  have hhyphen : letter ≠ '-' := by
    rintro rfl
    cases option <;> cases hletter
  refine ⟨raised, _, hraised, hvalue, ?_, fun rest => hnext _ ?_ ?_⟩
  · rw [List.foldl_append]
    rfl
  · exact List.append_ne_nil_of_right_ne_nil _ (List.cons_ne_nil _ _)
  · exact fun he => hhyphen (Option.some.inj he)

/-! ## All arguments -/

theorem foldlM_next_one {argument : String} {given : Arguments}
    (h : a.next argument = .ok given) : [argument].foldlM next a = .ok given := by
  rw [List.foldlM_cons, h]
  rfl

theorem foldlM_next_two {first second : String} {waiting given : Arguments}
    (hfirst : a.next first = .ok waiting) (hsecond : waiting.next second = .ok given) :
    [first, second].foldlM next a = .ok given := by
  rw [List.foldlM_cons, hfirst]
  exact foldlM_next_one hsecond

/-- By cases on the argument: what waits at its end is settled by what comes next. -/
theorem Says.amountsTo {here : List String} (hsaid : Says here items) (h : AmountsTo a b)
    (hopen : b.AllOpen items) (hplain : ∀ item ∈ items, item.IsPlain) :
    ∃ given, here.foldlM next a = .ok given ∧ AmountsTo given (items.foldl note b) := by
  cases hsaid with
  | target target =>
    have hbare : IsBare target := hplain _ List.mem_cons_self
    have hnext : a.next target = .ok (b.note (.target target)) := by
      rw [next_bare h.onlyTargets_eq hbare, takePlain_eq h hopen.1]
    exact ⟨_, foldlM_next_one hnext, h.note _⟩
  | @longFlag flag name hname =>
    have hne : name ≠ "" := by
      rintro rfl
      cases flag <;> simp [Flag.long?] at hname
    have hnext : a.next ("--" ++ name) = .ok (b.note (.flag flag)) := by
      rw [next_long h hne, readLong_flag a hname, raise_eq h hopen.1]
    exact ⟨_, foldlM_next_one hnext, h.note _⟩
  | longJoined option value =>
    obtain ⟨hvalue, -⟩ := hplain _ List.mem_cons_self
    have hne : option.long ++ "=" ++ value ≠ "" := by simp
    have hnext : a.next ("--" ++ (option.long ++ "=" ++ value)) =
        .ok (b.note (.value option value)) := by
      rw [next_long h hne, readLong_joined, takeOption_eq h hopen.1 hvalue]
    exact ⟨_, foldlM_next_one hnext, h.note _⟩
  | longBefore option value =>
    obtain ⟨hvalue, hbare⟩ := hplain _ List.mem_cons_self
    obtain ⟨waiting, given, htake, hgoes, hplain, hgiven⟩ := takeOption_waits h hopen.1 hvalue
    have hfirst : a.next ("--" ++ option.long) = .ok waiting := by
      rw [next_long h (by cases option <;> decide), readLong_option, htake]
    have hsecond : waiting.next value = .ok given := by rw [next_bare hgoes hbare, hplain]
    exact ⟨given, foldlM_next_two hfirst hsecond, hgiven⟩
  | @flags flags hne =>
    obtain ⟨raised, hraised, hnext⟩ := next_cluster h hopen
    have hcluster := hnext [] (by simpa using hne) (fun he => nomatch he)
    rw [List.append_nil] at hcluster
    exact ⟨raised, foldlM_next_one hcluster, hraised⟩
  | shortClose flags value hletter =>
    obtain ⟨hvalue, hbare⟩ := hplain _ (List.mem_append_right _ List.mem_cons_self)
    obtain ⟨raised, b', hraised, hfree, hfold, hnext⟩ := next_clusterOption h hletter hopen
    have hread := hnext value.toList
    rw [readShort_close raised hletter hvalue hbare, takeOption_eq hraised hfree hvalue] at hread
    rw [hfold]
    exact ⟨_, foldlM_next_one hread, hraised.note _⟩
  | shortJoined flags value hletter =>
    obtain ⟨hvalue, hbare⟩ := hplain _ (List.mem_append_right _ List.mem_cons_self)
    obtain ⟨raised, b', hraised, hfree, hfold, hnext⟩ := next_clusterOption h hletter hopen
    have hread := hnext ('=' :: value.toList)
    rw [readShort_joined raised hletter, takeOption_eq hraised hfree hvalue] at hread
    rw [hfold]
    exact ⟨_, foldlM_next_one hread, hraised.note _⟩
  | shortBefore flags value hletter =>
    obtain ⟨hvalue, hbare⟩ := hplain _ (List.mem_append_right _ List.mem_cons_self)
    obtain ⟨raised, b', hraised, hfree, hfold, hnext⟩ := next_clusterOption h hletter hopen
    obtain ⟨waiting, given, htake, hgoes, hplain, hgiven⟩ := takeOption_waits hraised hfree hvalue
    have hfirst := hnext []
    rw [readShort_before raised hletter, htake] at hfirst
    have hsecond : waiting.next value = .ok given := by rw [next_bare hgoes hbare, hplain]
    rw [hfold]
    exact ⟨given, foldlM_next_two hfirst hsecond, hgiven⟩

theorem Spells.amountsTo {arguments : List String} (hspells : Spells arguments items)
    (h : AmountsTo a b) (hopen : b.AllOpen items) (hplain : ∀ item ∈ items, item.IsPlain) :
    ∃ given, arguments.foldlM next a = .ok given ∧ AmountsTo given (items.foldl note b) := by
  induction hspells generalizing a b with
  | nil => exact ⟨a, rfl, h⟩
  | append hsaid _ ih =>
    obtain ⟨hhere, hothers⟩ := allOpen_append.mp hopen
    obtain ⟨between, hfirst, hbetween⟩ := hsaid.amountsTo h hhere
      fun item hitem => hplain item (List.mem_append_left _ hitem)
    obtain ⟨given, hsecond, hgiven⟩ := ih hbetween hothers
      fun item hitem => hplain item (List.mem_append_right _ hitem)
    refine ⟨given, ?_, by rwa [List.foldl_append]⟩
    rw [List.foldlM_append, hfirst]
    exact hsecond

theorem parse_eq {arguments : List String} (hspells : Spells arguments items)
    (hopen : AllOpen {} items) (hplain : ∀ item ∈ items, item.IsPlain) :
    parse arguments = .ok (items.foldl note {}) := by
  obtain ⟨given, hread, hgiven⟩ := hspells.amountsTo (amountsTo_self rfl rfl) hopen hplain
  rw [parse, hread]
  exact hgiven.settle_eq

/-! ## Any order -/

/-- Two items may be given together. -/
def Item.Apart : Item → Item → Prop
  | .value option _, .value other _ => option ≠ other
  | .flag raised, .flag other => raised ≠ other ∨ raised = .verbose
  | .target _, .target _ => False
  | _, _ => True

theorem Item.Apart.symm {first second : Item} (h : first.Apart second) : second.Apart first := by
  cases first <;> cases second <;> simp only [Item.Apart] at h ⊢
  · exact h.symm
  · rcases h with h | rfl
    · exact .inl h.symm
    · exact (em (_ = _)).symm

/-- An item stays open when another is noted. -/
theorem IsOpen.note {first second : Item} (h : first.Apart second) (hopen : a.IsOpen second) :
    (a.note first).IsOpen second := by
  rcases first with ⟨_ | _ | _, _⟩ | ⟨_ | _ | _ | _ | _⟩ | _ <;>
    rcases second with ⟨_ | _ | _, _⟩ | ⟨_ | _ | _ | _ | _⟩ | _ <;>
    first | exact hopen | simp [Item.Apart] at h

theorem note_comm {first second : Item} (h : first.Apart second) (a : Arguments) :
    (a.note first).note second = (a.note second).note first := by
  rcases first with ⟨_ | _ | _, _⟩ | ⟨_ | _ | _ | _ | _⟩ | _ <;>
    rcases second with ⟨_ | _ | _, _⟩ | ⟨_ | _ | _ | _ | _⟩ | _ <;>
    first | rfl | simp [Item.Apart] at h

theorem allOpen_of_pairwise (happart : items.Pairwise Item.Apart)
    (hopen : ∀ item ∈ items, a.IsOpen item) : a.AllOpen items := by
  induction happart generalizing a with
  | nil => trivial
  | cons hfirst _ ih =>
    refine ⟨hopen _ List.mem_cons_self, ih fun item hitem => ?_⟩
    exact (hopen item (List.mem_cons_of_mem _ hitem)).note (hfirst item hitem)

theorem foldl_note_perm (happart : items.Pairwise Item.Apart) (hperm : items.Perm more)
    (a : Arguments) : items.foldl note a = more.foldl note a := by
  have : Std.Symm Item.Apart := ⟨fun _ _ h => h.symm⟩
  refine hperm.foldl_eq' (fun first hfirst second hsecond a => ?_) a
  by_cases he : first = second
  · rw [he]
  · exact note_comm (happart.forall hfirst hsecond he) a

end

namespace Request

theorem pairwise_items (r : Request) : r.items.Pairwise Item.Apart := by
  have hoption : ∀ {α : Type} (o : Option α) (f : α → Item),
      (o.toList.map f).Pairwise Item.Apart := by
    intro α o f
    cases o <;> simp
  have hflag : ∀ (b : Bool) (flag : Flag),
      (if b then [Item.flag flag] else []).Pairwise Item.Apart := by
    intro b flag
    cases b <;> simp
  -- what is left is that items of two different kinds are apart
  simp only [items, List.pairwise_append, hoption, hflag, List.pairwise_replicate, List.mem_append,
    or_imp, forall_and, List.mem_map, List.mem_replicate, forall_exists_index, and_imp,
    forall_apply_eq_imp_iff₂, List.mem_ite_nil_right, List.mem_singleton, forall_eq_apply_imp_iff,
    Item.Apart, ne_eq, reduceCtorEq, not_true_eq_false, not_false_eq_true, or_true, or_false,
    implies_true, and_self]

theorem isOpen_of_mem_items {r : Request} {item : Item} (h : item ∈ r.items) :
    IsOpen {} item := by
  simp only [items, List.mem_append, List.mem_replicate, List.mem_ite_nil_right, List.mem_singleton,
    List.mem_map] at h
  rcases h with (((((⟨-, rfl⟩ | ⟨-, rfl⟩) | ⟨-, rfl⟩) | ⟨_, -, rfl⟩) | ⟨_, -, rfl⟩) | ⟨_, -, rfl⟩) |
    ⟨_, -, rfl⟩ <;> trivial

/-- The count of `-v` goes up to where it stays. -/
theorem foldl_verbose (n : Nat) {a : Arguments} (h : a.verbosity ≤ 255) :
    (List.replicate n (.flag .verbose)).foldl note a =
      { a with verbosity := min (a.verbosity + n) 255 } := by
  induction n generalizing a with
  | zero => simp [h]
  | succ n ih =>
    have hcount : min (min (a.verbosity + 1) 255 + n) 255 = min (a.verbosity + (n + 1)) 255 := by
      omega
    rw [List.replicate_succ, List.foldl_cons, ih (Nat.min_le_right _ _)]
    simp only [note, hcount]

theorem foldl_items (r : Request) : r.items.foldl note {} =
    { file := r.file, directory := r.directory, settings := r.settings, target := r.target,
      dryRun := r.dryRun, watch := r.watch, verbosity := min r.verbosity 255 } := by
  obtain ⟨file, directory, settings, target, dryRun, watch, verbosity⟩ := r
  simp only [items, List.foldl_append, foldl_verbose verbosity (a := {}) (by decide), Nat.zero_add]
  cases file <;> cases directory <;> cases settings <;> cases target <;> cases dryRun <;>
    cases watch <;> rfl

end Request

/-- Whatever is asked for, in whatever order it is given and however it is written: the arguments
are read, what is given is what the run is asked for, and what is left out is as usual. -/
theorem arrangements_ask_alike (r : Request) (hplain : ∀ item ∈ r.items, item.IsPlain)
    {items : List Item} (horder : items.Perm r.items) {arguments : List String}
    (hspells : Spells arguments items) :
    ∃ given, parse arguments = .ok given ∧ given.config = r.config ∧
      given.settings = r.settings := by
  have happart : items.Pairwise Item.Apart := horder.symm.pairwise r.pairwise_items Item.Apart.symm
  have hopen : AllOpen {} items := allOpen_of_pairwise happart
    fun item hitem => Request.isOpen_of_mem_items (horder.mem_iff.mp hitem)
  have hparse := parse_eq hspells hopen fun item hitem => hplain item (horder.mem_iff.mp hitem)
  rw [foldl_note_perm happart horder, r.foldl_items] at hparse
  refine ⟨_, hparse, ?_, rfl⟩
  have hverbose : min r.verbosity 255 > 0 ↔ 1 ≤ r.verbosity := by omega
  have hvery : min r.verbosity 255 > 1 ↔ 2 ≤ r.verbosity := by omega
  simp only [config, Request.config, hverbose, hvery]

/-- By the theorem, clusters and a target in the middle ask for the same as the plain way. -/
theorem arrangements_ask_alike_mixed :
    let asked : BuildConfig :=
      { file := "child.bygg", baseDir := "sub", dryRun := true, verbose := true,
        veryVerbose := true, target := "lib" }
    (∃ given, parse ["-vnCsub", "lib", "--file=child.bygg", "-v"] = .ok given ∧
      given.config = asked) ∧
    ∃ given, parse ["-f", "child.bygg", "-C", "sub", "-n", "-vv", "lib"] = .ok given ∧
      given.config = asked := by
  let r : Request :=
    { file := some "child.bygg", directory := some "sub", target := some "lib", dryRun := true,
      verbosity := 2 }
  have hplain : ∀ item ∈ r.items, item.IsPlain := by
    simp [r, Request.items, Item.IsPlain, IsBare]
  have hmixed : Spells ["-vnCsub", "lib", "--file=child.bygg", "-v"]
      [.flag .verbose, .flag .dryRun, .value .directory "sub", .target "lib",
        .value .file "child.bygg", .flag .verbose] :=
    .append (.shortClose [.verbose, .dryRun] "sub" rfl) <| .append (.target "lib") <|
      .append (.longJoined .file "child.bygg") <|
      .append (.flags (List.cons_ne_nil Flag.verbose [])) .nil
  have hsingle : Spells ["-f", "child.bygg", "-C", "sub", "-n", "-vv", "lib"]
      [.value .file "child.bygg", .value .directory "sub", .flag .dryRun, .flag .verbose,
        .flag .verbose, .target "lib"] :=
    .append (.shortBefore [] "child.bygg" rfl) <| .append (.shortBefore [] "sub" rfl) <|
      .append (.flags (List.cons_ne_nil Flag.dryRun [])) <|
      .append (.flags (List.cons_ne_nil Flag.verbose [.verbose])) <| .append (.target "lib") .nil
  obtain ⟨given, hgiven, hconfig, -⟩ := arrangements_ask_alike r hplain (by decide) hmixed
  obtain ⟨given', hgiven', hconfig', -⟩ := arrangements_ask_alike r hplain (by decide) hsingle
  exact ⟨⟨given, hgiven, hconfig⟩, given', hgiven', hconfig'⟩

end Arguments

end BuildTool
