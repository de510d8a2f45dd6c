import Evix.Args

/-!
# Grouped arguments survive packing

The tokens of a command line are plain tokens and groups: a flag with its values, the first of which
may be in the token of the flag. Packing makes one token of each group, and where the token is
parsed its text gives the values back.
-/

namespace Evix.Args

/-! ## Command lines -/

/-- A part of a command line. -/
inductive ArgItem where
  /-- A token of its own. -/
  | plain (token : String)
  /-- A flag and its values; `joined` when the first of them is in the token of the flag. -/
  | group (flag : String) (joined : Bool) (values : List String)
  deriving DecidableEq, Repr

/-- The tokens of a part. -/
def ArgItem.tokens : ArgItem → List String
  | .plain token => [token]
  | .group flag true (first :: values) => (flag ++ "=" ++ first) :: values
  | .group flag _ values => flag :: values

/-- The text of a group. -/
def packedText (values : List String) : String := (String.singleton packSep).intercalate values

/-- The token that a part becomes. -/
def ArgItem.packed : ArgItem → String
  | .plain token => token
  | .group flag _ values => flag ++ "=" ++ packedText values

/-- A token that begins a group: a flag, or a flag with a value. -/
def BeginsGroup (token flag : String) : Prop :=
  (packedArity flag).isSome ∧ (token = flag ∨ ∃ first, token = flag ++ "=" ++ first)

/-- A plain token does not begin a group; a group has as many values as its flag takes, and none of
them holds the separator. -/
def ArgItem.IsValid : ArgItem → Prop
  | .plain token => ∀ flag, ¬ BeginsGroup token flag
  | .group flag _ values =>
    packedArity flag = some values.length ∧ ∀ value ∈ values, packSep ∉ value.toList

/-- Tokens that begin with a flag that is followed by too few values, or by values one of which
holds the separator. -/
def BeginsBadGroup (tokens : List String) : Prop :=
  ∃ flag arity joined values, packedArity flag = some arity ∧
    tokens = (ArgItem.group flag joined values).tokens ∧
    (values.length < arity ∨ ∃ value ∈ values.take arity, packSep ∈ value.toList)

/-- What the text of a group gives back where it is parsed: the values of the flag. -/
def Unpacks (flag : String) (values : List String) : Prop :=
  if flag = "--remote" then
    ∃ endpoint systems count, values = [endpoint, systems, count] ∧
      ∀ workers, parseUsize count = .ok workers → 0 < workers →
        RemoteArg.fromArg (packedText values) =
          .ok { endpoint, systems := splitSystems systems, workers }
  else
    ∃ name value, values = [name, value] ∧
      Pair.fromArg (packedText values) = .ok { name, value }

/-! ## Flags -/

/-- A flag takes two values or three. -/
theorem packedArity_cases {flag : String} {arity : Nat} (takes : packedArity flag = some arity) :
    (flag ∈ ["--arg", "--argstr", "--override-input", "--option"] ∧ arity = 2) ∨
      (flag = "--remote" ∧ arity = 3) := by
  unfold packedArity at takes
  split at takes
  case isTrue listed => exact .inl ⟨listed, (Option.some.inj takes).symm⟩
  case isFalse =>
    split at takes
    case isTrue remote => exact .inr ⟨remote, (Option.some.inj takes).symm⟩
    case isFalse => cases takes

/-- A flag holds no equals sign. -/
theorem packedArity_plain {flag : String} {arity : Nat} (takes : packedArity flag = some arity) :
    '=' ∉ flag.toList := by
  have plain : ∀ name ∈ ["--arg", "--argstr", "--override-input", "--option", "--remote"],
      '=' ∉ name.toList := by
    decide
  rcases packedArity_cases takes with ⟨listed, _⟩ | ⟨rfl, _⟩
  · exact plain flag (List.mem_append_left ["--remote"] listed)
  · exact plain _ (by decide)

/-- The token of a flag, with its first value or without. -/
def tokenOf (flag : String) : Option String → String
  | none => flag
  | some first => flag ++ "=" ++ first

/-- The tokens that begin a group. -/
theorem groupStart_eq_some {token flag : String} {arity : Nat} {first : Option String} :
    groupStart token = some (flag, arity, first) ↔
      packedArity flag = some arity ∧ token = tokenOf flag first := by
  unfold groupStart
  constructor
  · intro begins
    rcases Option.or_eq_some_iff.mp begins with joined | ⟨_, separate⟩
    · obtain ⟨parts, split, found⟩ := Option.bind_eq_some_iff.mp joined
      obtain ⟨taken, takes, same⟩ := Option.map_eq_some_iff.mp found
      obtain ⟨rfl, rfl, rfl⟩ : parts.1 = flag ∧ taken = arity ∧ some parts.2 = first := by
        simpa using same
      exact ⟨takes, (Text.splitOnce_eq_some.mp split).1⟩
    · obtain ⟨taken, takes, same⟩ := Option.map_eq_some_iff.mp separate
      obtain ⟨rfl, rfl, rfl⟩ : token = flag ∧ taken = arity ∧ none = first := by
        simpa using same
      exact ⟨takes, rfl⟩
  · rintro ⟨takes, rfl⟩
    have plain := packedArity_plain takes
    cases first with
    | none =>
      have whole : Text.splitOnce '=' flag = none := Text.splitOnce_eq_none.mpr plain
      simp only [tokenOf, whole, takes]
      rfl
    | some first =>
      have split : Text.splitOnce '=' (flag ++ "=" ++ first) = some (flag, first) :=
        Text.splitOnce_append plain first
      simp only [tokenOf, split, Option.bind_some, takes]
      rfl

/-- The tokens that do not begin a group. -/
theorem groupStart_eq_none {token : String} :
    groupStart token = none ↔ ∀ flag, ¬ BeginsGroup token flag := by
  constructor
  · rintro absent flag ⟨takes, form⟩
    obtain ⟨arity, takes⟩ := Option.isSome_iff_exists.mp takes
    obtain ⟨first, same⟩ : ∃ first, token = tokenOf flag first := by
      rcases form with same | ⟨first, same⟩
      · exact ⟨none, same⟩
      · exact ⟨some first, same⟩
    cases absent.symm.trans (groupStart_eq_some.mpr ⟨takes, same⟩)
  · intro plain
    cases begins : groupStart token with
    | none => rfl
    | some start =>
      obtain ⟨flag, arity, first⟩ := start
      obtain ⟨takes, rfl⟩ := groupStart_eq_some.mp begins
      refine absurd ⟨Option.isSome_iff_exists.mpr ⟨arity, takes⟩, ?_⟩ (plain flag)
      cases first with
      | none => exact .inl rfl
      | some first => exact .inr ⟨first, rfl⟩

/-- The tokens of a group and what follows it: the token of the flag, and behind it the values that
are not in that token. -/
theorem group_tokens (flag : String) (joined : Bool) (values rest : List String) :
    ∃ first following,
      (ArgItem.group flag joined values).tokens ++ rest = tokenOf flag first :: following ∧
        first.toList ++ following = values ++ rest := by
  match joined, values with
  | true, first :: values => exact ⟨some first, values ++ rest, rfl, rfl⟩
  | true, [] => exact ⟨none, rest, rfl, rfl⟩
  | false, values => exact ⟨none, values ++ rest, rfl, rfl⟩

/-- Every token that begins a group begins the tokens of one. -/
theorem tokens_group (flag : String) (first : Option String) (following : List String) :
    (ArgItem.group flag first.isSome (first.toList ++ following)).tokens =
      tokenOf flag first :: following := by
  cases first with
  | none => rfl
  | some first => rfl

/-! ## Collecting values -/

/-- The values that are missing are the next tokens. -/
theorem collectMissing_eq (args : List String) {missing index : Nat} {values rest : List String}
    (behind : args.drop (index + 1) = rest) :
    collectMissing args missing index values =
      if missing ≤ rest.length then some (values ++ rest.take missing, index + missing)
      else none := by
  induction missing generalizing index values rest with
  | zero => simp [collectMissing]
  | succ missing ih =>
    have next : args[index + 1]? = rest[0]? := by
      rw [← behind, List.getElem?_drop, Nat.add_zero]
    rw [collectMissing, next]
    cases rest with
    | nil => simp
    | cons value rest =>
      have later : args.drop (index + 1 + 1) = rest := by
        rw [← List.drop_drop, behind, List.drop_one, List.tail_cons]
      rw [List.getElem?_cons_zero]
      dsimp only
      rw [ih later]
      simp only [List.length_cons, Nat.add_le_add_iff_right, List.take_succ_cons,
        List.append_assoc, List.singleton_append, Nat.add_assoc, Nat.add_comm 1 missing]

/-- What is collected behind the token of a flag: as many of the values that follow as the flag
takes. -/
theorem collectPackedValues_eq {args following : List String} {index arity : Nat} (flag : String)
    {first : Option String} (behind : args.drop (index + 1) = following)
    (room : first.toList.length ≤ arity) :
    collectPackedValues args index flag arity first =
      if arity ≤ (first.toList ++ following).length then
        .ok ((first.toList ++ following).take arity, index + (arity - first.toList.length) + 1)
      else .error s!"{flag} requires {arity} values" := by
  rw [collectPackedValues, collectMissing_eq args behind]
  have enough : arity - first.toList.length ≤ following.length ↔
      arity ≤ (first.toList ++ following).length := by
    rw [List.length_append]
    omega
  by_cases fits : arity ≤ (first.toList ++ following).length
  · rw [if_pos fits, if_pos (enough.mpr fits), List.take_append, List.take_of_length_le room]
  · rw [if_neg fits, if_neg (mt enough.mp fits)]

/-- Values without the separator are packed. -/
theorem pack_eq (values : List String) :
    pack values =
      if ∃ value ∈ values, packSep ∈ value.toList then
        .error "argument values cannot contain ASCII unit separator"
      else .ok (packedText values) := by
  have found : (values.any (·.toList.contains packSep)) = true ↔
      ∃ value ∈ values, packSep ∈ value.toList := by
    simp
  simp only [pack, found, packedText]

/-! ## A pass of the loop -/

namespace Normalizing

variable {args : List String} {state : Normalizing}

/-- Nothing happens after the return. -/
theorem pass_returned (done : state.returned.isSome) : pass args state = state := if_pos done

/-- Nothing happens after the return, in any number of passes. -/
theorem passes_returned (done : state.returned.isSome) (passes : Nat) :
    (pass args)^[passes] state = state :=
  Function.iterate_fixed (pass_returned done) passes

/-- A pass at the end of the tokens. -/
theorem pass_end {index : Nat} (normalized : List String) (behind : args.drop index = []) :
    pass args ⟨index, normalized, none⟩ = ⟨index, normalized, some (.ok normalized)⟩ := by
  have outside : args[index]? = none := by
    rw [List.getElem?_eq_none_iff]
    exact List.drop_eq_nil_iff.mp behind
  simp [pass, outside]

/-- A pass over a token that begins a group. -/
theorem pass_group {index arity : Nat} {flag : String} {first : Option String}
    {following : List String} (normalized : List String) (takes : packedArity flag = some arity)
    (behind : args.drop index = tokenOf flag first :: following) :
    (arity ≤ (first.toList ++ following).length ∧
      (∀ value ∈ (first.toList ++ following).take arity, packSep ∉ value.toList) ∧
      pass args ⟨index, normalized, none⟩ =
        ⟨index + (arity - first.toList.length) + 1,
          normalized ++ [flag ++ "=" ++ packedText ((first.toList ++ following).take arity)],
          none⟩) ∨
    (((first.toList ++ following).length < arity ∨
        ∃ value ∈ (first.toList ++ following).take arity, packSep ∈ value.toList) ∧
      ∃ error, pass args ⟨index, normalized, none⟩ = ⟨index, normalized, some (.error error)⟩) := by
  have token : args[index]? = some (tokenOf flag first) := by
    rw [← List.head?_drop, behind]
    rfl
  have later : args.drop (index + 1) = following := by
    rw [← List.drop_drop, behind]
    rfl
  have room : first.toList.length ≤ arity := by
    have one : first.toList.length ≤ 1 := by cases first <;> simp
    have more := packedArity_cases takes
    omega
  have begins : groupStart (tokenOf flag first) = some (flag, arity, first) :=
    groupStart_eq_some.mpr ⟨takes, rfl⟩
  have collected := collectPackedValues_eq flag later room
  by_cases fits : arity ≤ (first.toList ++ following).length
  · rw [if_pos fits] at collected
    have packed := pack_eq ((first.toList ++ following).take arity)
    by_cases held : ∃ value ∈ (first.toList ++ following).take arity, packSep ∈ value.toList
    · rw [if_pos held] at packed
      refine .inr ⟨.inr held, "argument values cannot contain ASCII unit separator", ?_⟩
      simp [pass, token, begins, collected, packed]
    · rw [if_neg held] at packed
      refine .inl ⟨fits, fun value member inside => held ⟨value, member, inside⟩, ?_⟩
      simp [pass, token, begins, collected, packed]
  · rw [if_neg fits] at collected
    refine .inr ⟨.inl (Nat.lt_of_not_le fits), s!"{flag} requires {arity} values", ?_⟩
    simp [pass, token, begins, collected]

/-- A pass over a plain token. -/
theorem pass_plain {index : Nat} {token : String} {rest : List String} (normalized : List String)
    (plain : groupStart token = none) (behind : args.drop index = token :: rest) :
    pass args ⟨index, normalized, none⟩ = ⟨index + 1, normalized ++ [token], none⟩ := by
  have there : args[index]? = some token := by
    rw [← List.head?_drop, behind]
    rfl
  simp [pass, there, plain]

/-- A pass over a part of the command line. -/
theorem pass_item {index : Nat} {item : ArgItem} {rest : List String} (normalized : List String)
    (valid : item.IsValid) (behind : args.drop index = item.tokens ++ rest) :
    pass args ⟨index, normalized, none⟩ =
      ⟨index + item.tokens.length, normalized ++ [item.packed], none⟩ := by
  cases item with
  | plain token => exact pass_plain normalized (groupStart_eq_none.mpr valid) behind
  | group flag joined values =>
    obtain ⟨takes, clean⟩ := valid
    obtain ⟨first, following, parts, all⟩ := group_tokens flag joined values rest
    have lengths := congrArg List.length parts
    have counted := congrArg List.length all
    rw [List.length_append, List.length_cons] at lengths
    rw [List.length_append, List.length_append] at counted
    have taken : (first.toList ++ following).take values.length = values := by
      rw [all, List.take_left]
    rw [parts] at behind
    have one : first.toList.length ≤ 1 := by cases first <;> simp
    have more := packedArity_cases takes
    obtain ⟨fits, _, passed⟩ | ⟨bad, _⟩ := pass_group normalized takes behind
    · have moved : index + (values.length - first.toList.length) + 1 =
          index + (ArgItem.group flag joined values).tokens.length := by
        omega
      rw [passed, taken, moved]
      rfl
    · rw [taken, List.length_append] at bad
      rcases bad with short | ⟨value, member, held⟩
      · omega
      · exact absurd held (clean value member)

/-- A pass over a group that is not complete or holds the separator. -/
theorem pass_bad {index : Nat} (normalized : List String)
    (bad : BeginsBadGroup (args.drop index)) :
    ∃ error, pass args ⟨index, normalized, none⟩ = ⟨index, normalized, some (.error error)⟩ := by
  obtain ⟨flag, arity, joined, values, takes, behind, wrong⟩ := bad
  obtain ⟨first, following, parts, all⟩ := group_tokens flag joined values []
  rw [List.append_nil] at parts all
  rw [parts] at behind
  obtain ⟨fits, clean, _⟩ | ⟨_, error, passed⟩ := pass_group normalized takes behind
  · rw [all] at fits clean
    rcases wrong with short | ⟨value, member, held⟩
    · omega
    · exact absurd held (clean value member)
  · exact ⟨error, passed⟩

/-! ## All passes -/

/-- The passes over the parts of a command line. -/
theorem passes_items {items : List ArgItem} {index : Nat} {rest : List String}
    (normalized : List String) (valid : ∀ item ∈ items, item.IsValid)
    (behind : args.drop index = items.flatMap ArgItem.tokens ++ rest) :
    (pass args)^[items.length] ⟨index, normalized, none⟩ =
      ⟨index + (items.flatMap ArgItem.tokens).length, normalized ++ items.map ArgItem.packed,
        none⟩ := by
  induction items generalizing index normalized with
  | nil => simp
  | cons item items ih =>
    rw [List.flatMap_cons, List.append_assoc] at behind
    have first := pass_item normalized (valid item List.mem_cons_self) behind
    have later : args.drop (index + item.tokens.length) =
        items.flatMap ArgItem.tokens ++ rest := by
      rw [← List.drop_drop, behind, List.drop_left]
    rw [List.length_cons, Function.iterate_succ_apply, first,
      ih _ (fun other member => valid other (List.mem_cons_of_mem _ member)) later]
    simp [Nat.add_assoc]

/-- What the pass behind the parts of a command line returns is returned in the end. -/
theorem normalizeArgs_returned {items : List ArgItem} {rest : List String}
    {result : Except String (List String)} (valid : ∀ item ∈ items, item.IsValid)
    (parts : args = items.flatMap ArgItem.tokens ++ rest)
    (last : (pass args ⟨(items.flatMap ArgItem.tokens).length, items.map ArgItem.packed,
      none⟩).returned = some result) :
    normalizeArgs args = some result := by
  have short : items.length ≤ (items.flatMap ArgItem.tokens).length := by
    clear valid parts last
    induction items with
    | nil => exact Nat.le_refl 0
    | cons item items ih =>
      rw [List.flatMap_cons, List.length_append, List.length_cons]
      have some_token : 0 < item.tokens.length := by
        match item with
        | .plain _ | .group _ true (_ :: _) | .group _ true [] | .group _ false _ =>
          exact Nat.succ_pos _
      omega
  have enough : items.length + 1 ≤ args.length + 1 := by
    have lengths := congrArg List.length parts
    rw [List.length_append] at lengths
    omega
  obtain ⟨extra, same⟩ := Nat.exists_eq_add_of_le' enough
  have start : args.drop 0 = items.flatMap ArgItem.tokens ++ rest := parts
  have passes := passes_items [] valid start
  rw [Nat.zero_add, List.nil_append] at passes
  rw [normalizeArgs, same, Function.iterate_add_apply, Function.iterate_succ_apply', passes,
    passes_returned (by rw [last]; rfl), last]

end Normalizing

open Normalizing

/-- A group and what is behind its values. -/
theorem tokens_take {flag : String} {arity : Nat} (takes : packedArity flag = some arity)
    (first : Option String) (following : List String) :
    (ArgItem.group flag first.isSome ((first.toList ++ following).take arity)).tokens ++
      (first.toList ++ following).drop arity = tokenOf flag first :: following := by
  cases first with
  | none => simp [ArgItem.tokens, tokenOf]
  | some first =>
    obtain ⟨others, rfl⟩ : ∃ others, arity = others + 1 := by
      rcases packedArity_cases takes with ⟨_, rfl⟩ | ⟨_, rfl⟩
      · exact ⟨1, rfl⟩
      · exact ⟨2, rfl⟩
    simp [ArgItem.tokens, tokenOf]

/-- Every command line is made of valid parts, up to its end or up to a bad group. -/
theorem exists_items (args : List String) :
    ∃ (items : List ArgItem) (rest : List String), (∀ item ∈ items, item.IsValid) ∧
      args = items.flatMap ArgItem.tokens ++ rest ∧ (rest = [] ∨ BeginsBadGroup rest) := by
  induction size : args.length using Nat.strong_induction_on generalizing args with
  | h count ih =>
    cases args with
    | nil => exact ⟨[], [], nofun, rfl, .inl rfl⟩
    | cons token following =>
      cases begins : groupStart token with
      | none =>
        obtain ⟨items, rest, valid, parts, ends⟩ := ih following.length (by simp [← size])
          following rfl
        refine ⟨.plain token :: items, rest, ?_, by rw [parts]; rfl, ends⟩
        exact List.forall_mem_cons.mpr ⟨groupStart_eq_none.mp begins, valid⟩
      | some start =>
        obtain ⟨flag, arity, first⟩ := start
        obtain ⟨takes, rfl⟩ := groupStart_eq_some.mp begins
        by_cases bad : (first.toList ++ following).length < arity ∨
            ∃ value ∈ (first.toList ++ following).take arity, packSep ∈ value.toList
        · exact ⟨[], _, nofun, rfl, .inr ⟨flag, arity, first.isSome, _, takes,
            (tokens_group flag first following).symm, bad⟩⟩
        · have parts := tokens_take takes first following
          obtain ⟨fits, clean⟩ := not_or.mp bad
          have taken : ((first.toList ++ following).take arity).length = arity :=
            List.length_take_of_le (Nat.le_of_not_lt fits)
          have shorter : ((first.toList ++ following).drop arity).length < count := by
            have more := packedArity_cases takes
            have one : first.toList.length ≤ 1 := by cases first <;> simp
            rw [List.length_drop, List.length_append, ← size, List.length_cons]
            omega
          obtain ⟨items, rest, valid, later, ends⟩ := ih _ shorter _ rfl
          refine ⟨.group flag first.isSome ((first.toList ++ following).take arity) :: items, rest,
            ?_, ?_, ends⟩
          · refine List.forall_mem_cons.mpr ⟨⟨takes.trans (congrArg some taken.symm), ?_⟩, valid⟩
            exact fun value member held => clean ⟨value, member, held⟩
          · rw [List.flatMap_cons, List.append_assoc, ← later, parts]

/-- A command line of valid parts succeeds with their tokens. -/
theorem normalizeArgs_items {items : List ArgItem} (valid : ∀ item ∈ items, item.IsValid) :
    normalizeArgs (items.flatMap ArgItem.tokens) = some (.ok (items.map ArgItem.packed)) := by
  refine normalizeArgs_returned valid (List.append_nil _).symm ?_
  rw [pass_end _ (List.drop_eq_nil_of_le (Nat.le_refl _))]

/-- A command line that reaches a bad group fails. -/
theorem normalizeArgs_bad {items : List ArgItem} {rest : List String}
    (valid : ∀ item ∈ items, item.IsValid) (bad : BeginsBadGroup rest) :
    ∃ error, normalizeArgs (items.flatMap ArgItem.tokens ++ rest) = some (.error error) := by
  have behind : BeginsBadGroup ((items.flatMap ArgItem.tokens ++ rest).drop
      (items.flatMap ArgItem.tokens).length) := by
    rw [List.drop_left]
    exact bad
  obtain ⟨error, passed⟩ := pass_bad (items.map ArgItem.packed) behind
  exact ⟨error, normalizeArgs_returned valid rfl (by rw [passed])⟩

/-- The text of a group gives its values back. -/
theorem unpacks_group {flag : String} {joined : Bool} {values : List String}
    (valid : (ArgItem.group flag joined values).IsValid) : Unpacks flag values := by
  obtain ⟨takes, clean⟩ := valid
  unfold Unpacks
  rcases packedArity_cases takes with ⟨listed, two⟩ | ⟨rfl, three⟩
  · have other : flag ≠ "--remote" := by
      rintro rfl
      exact absurd listed (by decide)
    obtain ⟨name, value, rfl⟩ := List.length_eq_two.mp two
    rw [if_neg other]
    refine ⟨name, value, rfl, ?_⟩
    have text : packedText [name, value] = name ++ String.singleton packSep ++ value := by
      simp [packedText]
    rw [Pair.fromArg, text, Text.splitOnce_append (clean name (by simp))]
  · obtain ⟨endpoint, systems, count, rfl⟩ := List.length_eq_three.mp three
    rw [if_pos rfl]
    refine ⟨endpoint, systems, count, rfl, fun workers parsed positive => ?_⟩
    have text : packedText [endpoint, systems, count] =
        endpoint ++ String.singleton packSep ++
          (systems ++ String.singleton packSep ++ count) := by
      simp [packedText]
    rw [RemoteArg.fromArg, text, Text.splitOnce_append (clean endpoint (by simp))]
    dsimp only
    rw [Text.splitOnce_append (clean systems (by simp))]
    dsimp only
    rw [parsed]
    dsimp only
    rw [if_neg (Nat.ne_of_gt positive)]

/-- **Grouped arguments survive packing.** The loop ends; it succeeds exactly for the command lines
that are made of valid parts, each of which becomes its token; it fails exactly for those that reach
a flag with too few values or with a value that holds the separator; and the text of every group
gives its values back. -/
theorem normalizeArgs_groups (args : List String) :
    (∃ result, normalizeArgs args = some result) ∧
      (∀ normalized, normalizeArgs args = some (.ok normalized) ↔
        ∃ items : List ArgItem, (∀ item ∈ items, item.IsValid) ∧
          args = items.flatMap ArgItem.tokens ∧ normalized = items.map ArgItem.packed) ∧
      ((∃ error, normalizeArgs args = some (.error error)) ↔
        ∃ (items : List ArgItem) (rest : List String), (∀ item ∈ items, item.IsValid) ∧
          args = items.flatMap ArgItem.tokens ++ rest ∧ BeginsBadGroup rest) ∧
      ∀ flag joined values, (ArgItem.group flag joined values).IsValid → Unpacks flag values := by
  obtain ⟨items, rest, valid, parts, rfl | bad⟩ := exists_items args
  · rw [List.append_nil] at parts
    have succeeds := normalizeArgs_items valid
    rw [← parts] at succeeds
    refine ⟨⟨_, succeeds⟩, fun normalized => ⟨fun made => ?_, ?_⟩, ⟨?_, ?_⟩,
      fun _ _ _ => unpacks_group⟩
    · exact ⟨items, valid, parts, (Except.ok.inj (Option.some.inj (succeeds.symm.trans made))).symm⟩
    · rintro ⟨others, also, rfl, rfl⟩
      exact normalizeArgs_items also
    · rintro ⟨error, failed⟩
      cases succeeds.symm.trans failed
    · rintro ⟨others, behind, also, rfl, bad⟩
      exact normalizeArgs_bad also bad
  · obtain ⟨error, failed⟩ := normalizeArgs_bad valid bad
    rw [← parts] at failed
    refine ⟨⟨_, failed⟩, fun normalized => ⟨fun made => ?_, ?_⟩,
      ⟨fun _ => ?_, fun _ => ⟨error, failed⟩⟩, fun _ _ _ => unpacks_group⟩
    · cases failed.symm.trans made
    · rintro ⟨others, also, rfl, rfl⟩
      exact normalizeArgs_items also
    · exact ⟨items, rest, valid, parts, bad⟩

-- The values of a group may look like flags.
example : normalizeArgs ["--option", "-x", "--arg", "c"] =
    some (.ok ["--option=-x\x1f--arg", "c"]) := by
  decide +kernel

end Evix.Args
