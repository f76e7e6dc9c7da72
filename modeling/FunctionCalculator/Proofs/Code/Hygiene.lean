import FunctionCalculator.Proofs.Code.Listing
import FunctionCalculator.Proofs.Token.Words
/-!
The names that a listing reads. A listing puts its temporaries among the names of its caller, so an
argument that is spelled like a temporary is read as that temporary once it is assigned.
-/

set_option autoImplicit false

namespace FunctionCalculator.Code

def Term.reads (term : Term Text) : List Text :=
  term.arguments ++ term.temporaries.map temporaryName

/-- No instruction that loads an argument reads a name that an earlier one has assigned. -/
def Hygienic (code : List Instruction) : Prop :=
  code.Pairwise fun earlier later =>
    later.term.arguments ≠ [] → earlier.destination.name ∉ later.term.reads

instance : DecidablePred Hygienic := fun code =>
  inferInstanceAs (Decidable (code.Pairwise _))

def IsIdentifier (text : Text) : Prop := text ≠ [] ∧ text.all Token.isWordChar = true

instance : DecidablePred IsIdentifier := fun text =>
  inferInstanceAs (Decidable (text ≠ [] ∧ text.all Token.isWordChar = true))

section Assignment

variable {arguments : List Text} {terms : List (Term Nat)} {code : List Instruction} {first : Nat}

theorem assign_eq_mapIdx (assigned : assign arguments first terms = .ok code) :
    ∃ news, List.Forall₂ (fun term new => term.replace (argument arguments) = .ok new) terms news ∧
      code = news.mapIdx (fun place new => ⟨.temporary (first + place), new⟩) ++
        [⟨.result, .temporary (first + terms.length - 1)⟩] := by
  induction terms generalizing first code with
  | nil =>
    obtain rfl := Except.ok.inj assigned
    exact ⟨[], .nil, rfl⟩
  | cons term rest ih =>
    obtain ⟨new, replaced, assigned⟩ := bind_ok assigned
    obtain ⟨others, later, assigned⟩ := bind_ok assigned
    obtain rfl := Except.ok.inj assigned
    obtain ⟨news, replacements, rfl⟩ := ih later
    refine ⟨new :: news, .cons replaced replacements, ?_⟩
    simp [List.mapIdx_cons, Nat.add_assoc, Nat.add_comm 1]

theorem hygienic_assign_iff (assigned : assign arguments first terms = .ok code) :
    Hygienic code ↔ ∀ place term new, terms[place]? = some term →
      term.replace (argument arguments) = .ok new → new.arguments ≠ [] →
      ∀ earlier < place, Term.temporaryName (first + earlier) ∉ new.reads := by
  obtain ⟨news, replaced, rfl⟩ := assign_eq_mapIdx assigned
  have length := replaced.length_eq
  constructor
  · intro hygienic place term new given done loads earlier before
    obtain ⟨within, rfl⟩ := List.getElem?_eq_some_iff.1 given
    have replacement := replaced.get within (length ▸ within)
    obtain rfl : news[place] = new := Except.ok.inj (replacement.symm.trans done)
    have apart := List.pairwise_iff_getElem.1 (List.pairwise_append.1 hygienic).1 earlier place
      (by rw [List.length_mapIdx]; omega) (by rw [List.length_mapIdx]; omega) before
    simp only [List.getElem_mapIdx] at apart
    exact apart loads
  · intro each
    refine List.pairwise_append.2 ⟨List.pairwise_iff_getElem.2 ?_, List.pairwise_singleton _ _, ?_⟩
    · intro earlier place _ within before loads
      rw [List.length_mapIdx] at within
      simp only [List.getElem_mapIdx] at loads ⊢
      have given := List.getElem?_eq_getElem (length ▸ within : place < terms.length)
      exact each place _ _ given (replaced.get (length ▸ within) within) loads earlier before
    · intro earlier _ later member loads
      obtain rfl := List.mem_singleton.1 member
      exact absurd rfl loads

end Assignment

section Templates

/-- The numbers of the arguments that the code of a builtin loads, in order. The mean loads its
first argument twice and all others load each of theirs once. -/
def loads : Builtin → List Nat
  | .mean => [0, 0]
  | builtin => List.range builtin.arity

-- The arguments are loaded first, one at a time, and what is computed from them comes after.
theorem map_arguments_template (builtin : Builtin) :
    (template builtin).map Term.arguments = (List.range (template builtin).length).map
      fun place => (loads builtin)[place]?.toList := by
  cases builtin <;> rfl

theorem loads_within (builtin : Builtin) : (loads builtin).length ≤ (template builtin).length := by
  cases builtin <;> decide

theorem temporaries_of_loading (builtin : Builtin) :
    ∀ term ∈ template builtin, term.arguments ≠ [] → term.temporaries = [] := by
  cases builtin <;> decide

variable {builtin : Builtin} {place : Nat}

theorem arguments_of_place {term : Term Nat} (given : (template builtin)[place]? = some term) :
    term.arguments = (loads builtin)[place]?.toList := by
  obtain ⟨within, rfl⟩ := List.getElem?_eq_some_iff.1 given
  have same := congrArg (·[place]?) (map_arguments_template builtin)
  simpa [within] using same

theorem temporaries_of_place {term : Term Nat} (given : (template builtin)[place]? = some term)
    (loading : term.arguments ≠ []) : term.temporaries = [] :=
  temporaries_of_loading builtin term (List.mem_of_getElem? given) loading

theorem exists_loading {index : Nat} (loaded : (loads builtin)[place]? = some index) :
    ∃ term, (template builtin)[place]? = some term ∧ term.arguments = [index] := by
  obtain ⟨within, -⟩ := List.getElem?_eq_some_iff.1 loaded
  have given := List.getElem?_eq_getElem (Nat.lt_of_lt_of_le within (loads_within builtin))
  exact ⟨_, given, by rw [arguments_of_place given, loaded]; rfl⟩

variable {arguments : List Text}

theorem reads_of_load {term : Term Nat} {new : Term Text} {index : Nat}
    (given : (template builtin)[place]? = some term) (single : term.arguments = [index])
    (done : term.replace (argument arguments) = .ok new) :
    ∃ text, arguments[index]? = some text ∧ new.arguments = [text] ∧ new.reads = [text] := by
  obtain ⟨others, kept⟩ := Term.replaced_of_replace done
  rw [single, List.forall₂_cons_left_iff] at others
  obtain ⟨text, rest, found, ended, loaded⟩ := others
  obtain rfl := List.forall₂_nil_left_iff.1 ended
  rw [temporaries_of_place given (by simp [single])] at kept
  exact ⟨text, argument_eq_ok.1 found, loaded, by simp [Term.reads, loaded, kept]⟩

theorem hygienic_template_iff {code : List Instruction}
    (assigned : assign arguments 1 (template builtin) = .ok code) :
    Hygienic code ↔ ∀ place index, (loads builtin)[place]? = some index →
      ∀ earlier < place, arguments[index]? ≠ some (Term.temporaryName (1 + earlier)) := by
  rw [hygienic_assign_iff assigned]
  constructor
  · intro each place index loaded earlier before clash
    obtain ⟨term, given, single⟩ := exists_loading loaded
    have replaceable : ∀ number ∈ term.arguments, ∃ text, argument arguments number = .ok text := by
      rw [single]
      simpa using ⟨_, argument_eq_ok.2 clash⟩
    obtain ⟨new, done⟩ := term.replace_ok replaceable
    obtain ⟨text, found, arguments, reads⟩ := reads_of_load given single done
    refine each place term new given done (by simp [arguments]) earlier before ?_
    rw [reads, Option.some.inj (found.symm.trans clash)]
    exact List.mem_singleton_self _
  · intro each place term new given done loading earlier before member
    obtain ⟨others, -⟩ := Term.replaced_of_replace done
    cases loaded : (loads builtin)[place]? with
    | none =>
      rw [arguments_of_place given, loaded] at others
      exact loading (List.forall₂_nil_left_iff.1 others)
    | some index =>
      have single : term.arguments = [index] := by rw [arguments_of_place given, loaded]; rfl
      obtain ⟨text, found, -, reads⟩ := reads_of_load given single done
      rw [reads, List.mem_singleton] at member
      exact each place index loaded earlier before (member ▸ found)

end Templates

section Identifiers

theorem IsIdentifier.trimmed {text : Text} (identifier : IsIdentifier text) :
    Text.Trimmed text := by
  refine Text.trimmed_of_not_blank fun c member => ?_
  have word := Token.inChunk_of_isWordChar (List.all_eq_true.1 identifier.2 c member)
  simpa [Token.inChunk] using (Bool.and_eq_true_iff.1 word).1

end Identifiers

section Builtins

variable {builtin : Builtin} {arguments : List Text}

theorem arguments_within (enough : ∀ index ∈ loads builtin, index < arguments.length) :
    ∀ term ∈ template builtin, ∀ index ∈ term.arguments, index < arguments.length := by
  intro term member index loaded
  obtain ⟨place, given⟩ := List.mem_iff_getElem?.1 member
  rw [arguments_of_place given, Option.mem_toList] at loaded
  exact enough index (List.mem_of_getElem? loaded)

/-- The listing of a known function on identifiers reads its arguments from the caller, except for
an argument that is spelled like a temporary assigned before the argument is loaded. -/
theorem hygienic_iff {name : Text} (known : Builtin.named? (resolve name) = some builtin)
    (enough : ∀ index ∈ loads builtin, index < arguments.length)
    (identifiers : ∀ argument ∈ arguments, IsIdentifier argument) :
    ∃ code, emit (some name) (arguments.map some) = .ok code ∧
      (Hygienic code ↔ ∀ place index, (loads builtin)[place]? = some index →
        ∀ earlier < place, arguments[index]? ≠ some (Term.temporaryName (1 + earlier))) := by
  have trimmed : arguments.map Text.trim = arguments :=
    (List.map_congr_left fun argument member => (identifiers argument member).trimmed).trans
      (List.map_id _)
  obtain ⟨code, assigned⟩ := assign_ok (arguments_within enough) 1
  refine ⟨code, ?_, hygienic_template_iff assigned⟩
  rw [emit_of_supported known, trimmed, assigned]

-- The first argument is spelled like a temporary, but like one that is assigned after it is loaded.
theorem hygienic_max :
    let arguments : List Text := ["t2", "y"]
    Builtin.named? (resolve "Max") = some .findMax ∧
      (∀ index ∈ loads .findMax, index < arguments.length) ∧
      (∀ argument ∈ arguments, IsIdentifier argument) ∧
      ∃ code, emit (some "Max") (arguments.map some) = .ok code ∧ Hygienic code := by
  intro arguments
  have known : Builtin.named? (resolve "Max") = some .findMax := by decide +kernel
  have enough : ∀ index ∈ loads .findMax, index < arguments.length := by decide
  have identifiers : ∀ argument ∈ arguments, IsIdentifier argument := by decide
  have apart : ∀ place index, (loads .findMax)[place]? = some index →
      ∀ earlier < place, arguments[index]? ≠ some (Term.temporaryName (1 + earlier)) := by
    intro place index loaded earlier before
    match place, loaded with
    | 1, rfl =>
      obtain rfl := Nat.lt_one_iff.1 before
      decide
  obtain ⟨code, emitted, hygienic⟩ := hygienic_iff known enough identifiers
  exact ⟨known, enough, identifiers, code, emitted, hygienic.2 apart⟩

-- The second instruction loads `t1`, which by then holds the first argument.
theorem unhygienic_add :
    let arguments : List Text := ["x", "t1"]
    Builtin.named? (resolve "add") = some .add ∧
      (∀ index ∈ loads .add, index < arguments.length) ∧
      (∀ argument ∈ arguments, IsIdentifier argument) ∧
      ∃ code, emit (some "add") (arguments.map some) = .ok code ∧ ¬ Hygienic code := by
  intro arguments
  have enough : ∀ index ∈ loads .add, index < arguments.length := by decide
  have identifiers : ∀ argument ∈ arguments, IsIdentifier argument := by decide
  refine ⟨by decide +kernel, enough, identifiers,
    [⟨.temporary 1, .argument "x"⟩, ⟨.temporary 2, .argument "t1"⟩,
      ⟨.temporary 3, .binary .plus (.temporary 1) (.temporary 2)⟩, ⟨.result, .temporary 3⟩],
    by decide +kernel, by decide +kernel⟩

end Builtins

end FunctionCalculator.Code
