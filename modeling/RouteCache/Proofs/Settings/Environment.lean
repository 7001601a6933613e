import RouteCache.Proofs.Sequence
import RouteCache.Proofs.Text.Numeral
import RouteCache.Settings.Environment

/-!
Which environments give settings, which settings they give, and which variable decides
the refusal of the others. A variable is read without regard to those around it, so it
is enough to know what each of them gives, and the order in which they are read.
-/

namespace RouteCache

/-! Settings as numbers -/

/-- The variables in the order in which they are read. -/
def Variable.order : List Variable := [.capacity, .lifetime, .width, .depth, .tickMillis, .ticks]

/-- All numbers of a variable are below this one. -/
def Variable.bound : Variable → Nat
  | .width | .depth => UInt32.size
  | .capacity | .lifetime | .tickMillis | .ticks => UInt64.size

def Settings.value (settings : Settings) : Variable → Nat
  | .capacity => settings.capacity.toNat
  | .lifetime => settings.lifetime.toNat
  | .width => settings.width.toNat
  | .depth => settings.depth.toNat
  | .tickMillis => settings.tickMillis.toNat
  | .ticks => settings.ticks.toNat

/-- The number of a variable that is not set. -/
def Variable.usual (name : Variable) : Nat := ({} : Settings).value name

theorem Settings.value_lt (settings : Settings) (name : Variable) :
    settings.value name < name.bound := by
  cases name with
  | width | depth => exact UInt32.toNat_lt_size _
  | capacity | lifetime | tickMillis | ticks => exact UInt64.toNat_lt_size _

namespace Environment

variable {environment : Environment} {name : Variable} {number : Nat} {refusal : Refusal}

/-- The number that the environment gives a variable: the one its text denotes, or the
usual one if it has no text. -/
def Gives (environment : Environment) (name : Variable) (number : Nat) : Prop :=
  match environment name with
  | .unset | .unreadable => number = name.usual
  | .text value => Text.Denotes value.toList number ∧ number < name.bound

/-- A variable whose text, if it has one, is a numeral of its range. -/
def Accepts (environment : Environment) (name : Variable) : Prop :=
  ∀ text, environment name = .text text →
    ∃ number, Text.Denotes text.toList number ∧ number < name.bound

/-- The first variable of a list that is not accepted, and its text, are the reason of a
refusal. -/
def Refuses (environment : Environment) (names : List Variable) (refusal : Refusal) : Prop :=
  ∃ before name after text, names = before ++ name :: after ∧
    (∀ earlier ∈ before, environment.Accepts earlier) ∧
    environment name = .text text ∧ ¬ environment.Accepts name ∧
    refusal = .malformed name text

/-- Every variable is set to the digits of a setting, with white space around them. -/
def Spells (environment : Environment) (settings : Settings) : Prop :=
  ∀ name, ∃ front back : String, Text.Blank front.toList ∧ Text.Blank back.toList ∧
    environment name = .text (front ++ toString (settings.value name) ++ back)

theorem Gives.lt (h : environment.Gives name number) : number < name.bound := by
  unfold Gives at h
  split at h
  · rw [h]
    exact Settings.value_lt {} name
  · rw [h]
    exact Settings.value_lt {} name
  · exact h.2

theorem accepts_iff_exists_gives :
    environment.Accepts name ↔ ∃ number, environment.Gives name number := by
  unfold Accepts Gives
  cases environment name with
  | unset | unreadable =>
    constructor
    · intro _
      exact ⟨name.usual, rfl⟩
    · intro _ text same
      cases same
  | text value =>
    constructor
    · intro h
      exact h value rfl
    · rintro h _ ⟨⟩
      exact h

theorem Spells.gives {settings : Settings} (h : environment.Spells settings) (name : Variable) :
    environment.Gives name (settings.value name) := by
  obtain ⟨front, back, hfront, hback, htext⟩ := h name
  rw [Gives, htext]
  refine ⟨?_, settings.value_lt name⟩
  rw [String.toList_append, String.toList_append]
  exact Text.denotes_repr hfront hback (settings.value name)

/-! One variable -/

def read (environment : Environment) (name : Variable) : Except Refusal Nat :=
  environment.number name name.bound name.usual

theorem read_eq_ok_iff : environment.read name = .ok number ↔ environment.Gives name number := by
  unfold read Environment.number Gives
  cases environment name with
  | unset | unreadable =>
    constructor
    · intro h
      exact (Except.ok.inj h).symm
    · rintro rfl
      rfl
  | text value =>
    simp only [← Text.numeral?_trim_eq_some_iff]
    cases Text.numeral? name.bound (Text.trim value.toList) with
    | none =>
      constructor
      · intro h
        cases h
      · intro h
        cases h
    | some found => rw [Except.ok.injEq, Option.some_inj]

theorem accepts_iff_exists_read :
    environment.Accepts name ↔ ∃ number, environment.read name = .ok number := by
  simp only [accepts_iff_exists_gives, read_eq_ok_iff]

theorem text_of_read_eq_error (h : environment.read name = .error refusal) :
    ∃ text, environment name = .text text ∧ refusal = .malformed name text := by
  unfold read Environment.number at h
  split at h
  · cases h
  · cases h
  · rename_i value htext
    split at h
    · cases h
    · cases h
      exact ⟨value, htext, rfl⟩

theorem read_eq_error_iff :
    environment.read name = .error refusal ↔
      ∃ text, environment name = .text text ∧ ¬ environment.Accepts name ∧
        refusal = .malformed name text := by
  rw [accepts_iff_exists_read]
  cases hread : environment.read name with
  | ok number =>
    constructor
    · intro h
      cases h
    · rintro ⟨_, _, hnot, _⟩
      exact absurd ⟨number, rfl⟩ hnot
  | error cause =>
    obtain ⟨text, htext, rfl⟩ := text_of_read_eq_error hread
    constructor
    · rintro ⟨⟩
      refine ⟨text, htext, ?_, rfl⟩
      rintro ⟨_, ⟨⟩⟩
    · rintro ⟨other, hother, _, rfl⟩
      cases htext.symm.trans hother
      rfl

/-- A variable of any width: words stand for the numbers below the bound. -/
theorem map_read_eq_ok_iff {Word : Type} {ofNat : Nat → Word} {toNat : Word → Nat} {word : Word}
    (hto : ∀ number < name.bound, toNat (ofNat number) = number)
    (hof : ∀ word, ofNat (toNat word) = word) :
    (environment.read name).map ofNat = .ok word ↔ environment.Gives name (toNat word) := by
  rw [← read_eq_ok_iff]
  cases hread : environment.read name with
  | ok number =>
    have hlt : number < name.bound := (read_eq_ok_iff.mp hread).lt
    constructor
    · rintro ⟨⟩
      rw [hto number hlt]
    · rintro ⟨⟩
      exact congrArg _ (hof word)
  | error cause =>
    constructor
    · intro h
      cases h
    · intro h
      cases h

theorem read_word_eq_ok_iff {word : UInt64} (hbound : name.bound = UInt64.size) :
    (environment.read name).map UInt64.ofNat = .ok word ↔ environment.Gives name word.toNat :=
  map_read_eq_ok_iff (fun _ hlt => UInt64.toNat_ofNat_of_lt' (hbound ▸ hlt))
    fun _ => UInt64.ofNat_toNat

theorem read_halfWord_eq_ok_iff {word : UInt32} (hbound : name.bound = UInt32.size) :
    (environment.read name).map UInt32.ofNat = .ok word ↔ environment.Gives name word.toNat :=
  map_read_eq_ok_iff (fun _ hlt => UInt32.toNat_ofNat_of_lt' (hbound ▸ hlt))
    fun _ => UInt32.ofNat_toNat

/-! The variables one after the other -/

theorem not_refuses_nil : ¬ environment.Refuses [] refusal := by
  rintro ⟨before, _, _, _, hnames, _⟩
  simp at hnames

theorem refuses_cons_iff {names : List Variable} :
    environment.Refuses (name :: names) refusal ↔
      environment.read name = .error refusal ∨
        environment.Accepts name ∧ environment.Refuses names refusal := by
  rw [read_eq_error_iff]
  constructor
  · rintro ⟨before, first, after, text, hnames, hbefore, hfirst⟩
    -- the variable read first is either the one refused or before it
    cases before with
    | nil =>
      obtain ⟨rfl, rfl⟩ := List.cons.inj hnames
      exact Or.inl ⟨text, hfirst⟩
    | cons earlier before =>
      obtain ⟨rfl, rfl⟩ := List.cons.inj hnames
      obtain ⟨haccepts, hbefore⟩ := List.forall_mem_cons.mp hbefore
      exact Or.inr ⟨haccepts, before, first, after, text, rfl, hbefore, hfirst⟩
  · rintro (⟨text, hfirst⟩ | ⟨haccepts, before, first, after, text, rfl, hbefore, hfirst⟩)
    · exact ⟨[], name, names, text, rfl, by simp, hfirst⟩
    · exact ⟨name :: before, first, after, text, rfl, List.forall_mem_cons.mpr ⟨haccepts, hbefore⟩,
        hfirst⟩

/-- A refusal comes from the variable read first, or that one is accepted and the refusal
comes from those after it. -/
theorem map_read_bind_eq_error_iff {Word α : Type} {ofNat : Nat → Word}
    {next : Word → Except Refusal α} {names : List Variable}
    (hnext : ∀ word, next word = .error refusal ↔ environment.Refuses names refusal) :
    ((environment.read name).map ofNat >>= next) = .error refusal ↔
      environment.Refuses (name :: names) refusal := by
  rw [refuses_cons_iff, except_bind_eq_error_iff, accepts_iff_exists_read]
  simp only [hnext]
  cases environment.read name <;> simp [Except.map]

end Environment

namespace Settings

open Environment

variable {environment : Environment} {settings : Settings} {refusal : Refusal}

theorem ofEnvironment_eq :
    ofEnvironment environment = (do
      let capacity ← (environment.read .capacity).map UInt64.ofNat
      let lifetime ← (environment.read .lifetime).map UInt64.ofNat
      let width ← (environment.read .width).map UInt32.ofNat
      let depth ← (environment.read .depth).map UInt32.ofNat
      let tickMillis ← (environment.read .tickMillis).map UInt64.ofNat
      let ticks ← (environment.read .ticks).map UInt64.ofNat
      return { capacity, lifetime, width, depth, tickMillis, ticks }) := rfl

theorem ofEnvironment_eq_ok_iff :
    ofEnvironment environment = .ok settings ↔
      ∀ name, environment.Gives name (settings.value name) := by
  simp only [ofEnvironment_eq, except_bind_eq_ok_iff]
  constructor
  · rintro ⟨_, hcapacity, _, hlifetime, _, hwidth, _, hdepth, _, htickMillis, _, hticks, ⟨⟩⟩
    intro name
    cases name with
    | capacity => exact (read_word_eq_ok_iff rfl).mp hcapacity
    | lifetime => exact (read_word_eq_ok_iff rfl).mp hlifetime
    | width => exact (read_halfWord_eq_ok_iff rfl).mp hwidth
    | depth => exact (read_halfWord_eq_ok_iff rfl).mp hdepth
    | tickMillis => exact (read_word_eq_ok_iff rfl).mp htickMillis
    | ticks => exact (read_word_eq_ok_iff rfl).mp hticks
  · intro h
    exact ⟨_, (read_word_eq_ok_iff rfl).mpr (h .capacity),
      _, (read_word_eq_ok_iff rfl).mpr (h .lifetime),
      _, (read_halfWord_eq_ok_iff rfl).mpr (h .width),
      _, (read_halfWord_eq_ok_iff rfl).mpr (h .depth),
      _, (read_word_eq_ok_iff rfl).mpr (h .tickMillis),
      _, (read_word_eq_ok_iff rfl).mpr (h .ticks), rfl⟩

theorem ofEnvironment_eq_error_iff :
    ofEnvironment environment = .error refusal ↔
      environment.Refuses Variable.order refusal := by
  rw [ofEnvironment_eq]
  refine map_read_bind_eq_error_iff fun capacity => map_read_bind_eq_error_iff fun lifetime =>
    map_read_bind_eq_error_iff fun width => map_read_bind_eq_error_iff fun depth =>
    map_read_bind_eq_error_iff fun tickMillis => map_read_bind_eq_error_iff fun ticks => ?_
  -- when all variables are read nothing is left to refuse
  exact iff_of_false (fun h => nomatch h) not_refuses_nil

theorem exists_ofEnvironment_iff :
    (∃ settings, ofEnvironment environment = .ok settings) ↔
      ∀ name, environment.Accepts name := by
  constructor
  · rintro ⟨settings, h⟩ name
    exact accepts_iff_exists_gives.mpr ⟨_, ofEnvironment_eq_ok_iff.mp h name⟩
  · intro h
    cases hread : ofEnvironment environment with
    | ok settings => exact ⟨settings, rfl⟩
    | error refusal =>
      obtain ⟨_, name, _, _, _, _, _, hnot, _⟩ := ofEnvironment_eq_error_iff.mp hread
      exact absurd (h name) hnot

/-- Settings are read if every text is a numeral of its range between white space, and
then every variable has the number it is given. Otherwise the refusal names the first
variable in the order of reading that is not accepted, with its text as it is. Settings
that are spelled out, in any white space, are read back. -/
theorem ofEnvironment_grammar (environment : Environment) :
    ((∃ settings, ofEnvironment environment = .ok settings) ↔
      ∀ name, environment.Accepts name) ∧
    (∀ settings, ofEnvironment environment = .ok settings ↔
      ∀ name, environment.Gives name (settings.value name)) ∧
    (∀ refusal, ofEnvironment environment = .error refusal ↔
      environment.Refuses Variable.order refusal) ∧
    ∀ settings, environment.Spells settings → ofEnvironment environment = .ok settings :=
  ⟨exists_ofEnvironment_iff, fun _ => ofEnvironment_eq_ok_iff,
    fun _ => ofEnvironment_eq_error_iff,
    fun _ spelled => ofEnvironment_eq_ok_iff.mpr spelled.gives⟩

theorem ofEnvironment_grammar_padded :
    ofEnvironment (fun name => .text ("\u00a0\t" ++ toString (value {} name) ++ " \n")) = .ok {} ∧
    ofEnvironment
        (fun | .lifetime => .text "+07" | .width => .text " lots" | .depth => .unreadable
             | .ticks => .text "-1" | _ => .unset) =
      .error (.malformed .width " lots") := by
  constructor
  · refine (ofEnvironment_grammar _).2.2.2 {} fun name => ⟨"\u00a0\t", " \n", ?_, ?_, rfl⟩
    · exact Text.blank_iff.mpr (List.all_eq_true.mp (by decide))
    · exact Text.blank_iff.mpr (List.all_eq_true.mp (by decide))
  · refine ((ofEnvironment_grammar _).2.2.1 _).mpr
      ⟨[.capacity, .lifetime], .width, [.depth, .tickMillis, .ticks], " lots", rfl, ?_, rfl, ?_, rfl⟩
    · have hseven : Text.numeral? UInt64.size (Text.trim "+07".toList) = some 7 := by decide
      rw [List.forall_mem_cons, List.forall_mem_singleton]
      constructor
      · rintro _ ⟨⟩
      rintro _ ⟨⟩
      exact ⟨7, Text.numeral?_trim_eq_some_iff.mp hseven⟩
    · have hnone : Text.numeral? UInt32.size (Text.trim " lots".toList) = none := by decide
      intro haccepts
      obtain ⟨number, h⟩ := haccepts " lots" rfl
      cases hnone.symm.trans (Text.numeral?_trim_eq_some_iff.mpr h)

end Settings

end RouteCache
