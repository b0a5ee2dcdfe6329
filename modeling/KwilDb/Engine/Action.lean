import KwilDb.Core.Types

/-! # Actions from `CREATE ACTION` statements

`action.FromAST` and `stringToMod` (`node/engine/interpreter`, `src/unnamed/part_001:36-103`): an
action takes its name, body, parameters and return type from the parsed statement, and its access
modifiers from the statement's modifier words, lower-cased by Go's `strings.ToLower`, which is the
parameter `lower` here. The words must name modifiers, exactly one of them `PUBLIC`, `PRIVATE` or
`SYSTEM`; the action keeps each modifier once, in the order the words first name it. -/

namespace KwilDb

/-- `precompiles.Modifier`, as `stringToMod` produces them. -/
inductive Modifier where
  | PUBLIC
  | PRIVATE
  | SYSTEM
  | OWNER
  | VIEW
  deriving DecidableEq, Repr

/-- The lower-case word that names a modifier. -/
def Modifier.keyword : Modifier → String
  | .PUBLIC => "public"
  | .PRIVATE => "private"
  | .SYSTEM => "system"
  | .OWNER => "owner"
  | .VIEW => "view"

theorem Modifier.keyword_injective : Function.Injective Modifier.keyword := by
  intro m m' h
  cases m <;> cases m' <;> simp_all [Modifier.keyword]

/-- `actionReturn`, and the statement's return clause it is copied from. -/
structure ActionReturn (NamedType : Type) where
  isTable : Bool
  fields : List NamedType
  deriving DecidableEq, Repr

/-- `parse.CreateActionStatement`, with the fields `FromAST` reads. -/
structure CreateActionStatement (Stmt NamedType : Type) where
  name : String
  raw : String
  statements : List Stmt
  parameters : List NamedType
  returns : Option (ActionReturn NamedType)
  modifiers : List String

/-- `action`. -/
structure Action (Stmt NamedType : Type) where
  name : String
  parameters : List NamedType
  modifiers : List Modifier
  body : List Stmt
  rawStatement : String
  returns : Option (ActionReturn NamedType)

section FromAST

variable (lower : String → String) {Stmt NamedType : Type}

/-- `stringToMod`. -/
def stringToMod (s : String) : Except Error Modifier :=
  match lower s with
  | "public" => .ok .PUBLIC
  | "private" => .ok .PRIVATE
  | "system" => .ok .SYSTEM
  | "owner" => .ok .OWNER
  | "view" => .ok .VIEW
  | _ => .error (.msg ("unknown modifier " ++ s))

/-- The loop of `FromAST` over `ast.Modifiers`, from `hasPublicPrivateOrSystem` and the modifiers
appended so far. `modSet` holds exactly the elements of `a.Modifiers`, so a lookup in it is a
membership test on the list. -/
def modifierLoop : List String → Bool → List Modifier → Except Error (Bool × List Modifier)
  | [], hasAccess, mods => .ok (hasAccess, mods)
  | m :: ms, hasAccess, mods =>
    match stringToMod lower m with
    | .error e => .error e
    | .ok mod =>
      let access := mod == .PUBLIC || mod == .PRIVATE || mod == .SYSTEM
      if access && hasAccess then .error (.msg "only one of PUBLIC, PRIVATE, or SYSTEM is allowed")
      else modifierLoop ms (hasAccess || access) (if mod ∈ mods then mods else mods ++ [mod])

/-- `action.FromAST`, returning the action it fills in. The fields it sets before a modifier
error are lost with the action, which callers drop on an error. -/
def fromAST (a : Action Stmt NamedType) (ast : CreateActionStatement Stmt NamedType) :
    Except Error (Action Stmt NamedType) :=
  match modifierLoop lower ast.modifiers false [] with
  | .error e => .error e
  | .ok (hasAccess, mods) =>
    if !hasAccess then
      .error (.msg ("one of PUBLIC, PRIVATE, or SYSTEM access modifier is required. received: \"" ++
        ", ".intercalate ast.modifiers ++ "\""))
    else
      .ok { a with
        name := ast.name
        rawStatement := ast.raw
        body := ast.statements
        parameters := ast.parameters
        returns := match ast.returns with
          | some r => some r
          | none => a.returns
        modifiers := mods }

/-- The words of the access modifiers. -/
def accessKeywords : List String := ["public", "private", "system"]

/-- The words of all modifiers. -/
def modifierKeywords : List String := ["public", "private", "system", "owner", "view"]

theorem stringToMod_eq_ok {s : String} {mod : Modifier} :
    stringToMod lower s = .ok mod ↔ lower s = mod.keyword := by
  unfold stringToMod
  split <;> cases mod <;> simp_all [Modifier.keyword]

theorem stringToMod_eq_error {s : String} {e : Error} (herr : stringToMod lower s = .error e) :
    lower s ∉ modifierKeywords := by
  unfold stringToMod at herr
  split at herr <;> simp_all [modifierKeywords]

theorem access_eq_keyword (mod : Modifier) :
    (mod == .PUBLIC || mod == .PRIVATE || mod == .SYSTEM) =
      decide (mod.keyword ∈ accessKeywords) := by
  cases mod <;> decide

theorem keyword_mem_modifierKeywords (mod : Modifier) : mod.keyword ∈ modifierKeywords := by
  cases mod <;> decide

theorem modifierLoop_ok_iff (ms : List String) (hasAccess : Bool) (mods : List Modifier) :
    (∃ r, modifierLoop lower ms hasAccess mods = .ok r) ↔
      (∀ m ∈ ms, lower m ∈ modifierKeywords) ∧
        ms.countP (fun m => lower m ∈ accessKeywords) + (if hasAccess then 1 else 0) ≤ 1 := by
  induction ms generalizing hasAccess mods with
  | nil =>
    exact ⟨fun _ => ⟨fun _ h => absurd h (List.not_mem_nil _), by cases hasAccess <;> simp⟩,
      fun _ => ⟨_, rfl⟩⟩
  | cons m ms ih =>
    cases hmod : stringToMod lower m with
    | error e =>
      refine iff_of_false ?_ fun ⟨hvalid, _⟩ =>
        stringToMod_eq_error lower hmod (hvalid m (.head _))
      rintro ⟨_, hloop⟩
      simp only [modifierLoop, hmod, reduceCtorEq] at hloop
    | ok mod =>
      have hkw := (stringToMod_eq_ok lower).mp hmod
      simp only [modifierLoop, hmod, List.mem_cons, forall_eq_or_imp, hkw,
        keyword_mem_modifierKeywords, true_and, List.countP_cons, access_eq_keyword]
      by_cases hin : mod.keyword ∈ accessKeywords <;> cases hasAccess <;>
        simp only [hin, ih, decide_True, decide_False, Bool.and_false, Bool.and_self, Bool.and_true,
          Bool.or_true, Bool.or_self, Bool.or_false, Bool.false_eq_true, ↓reduceIte, reduceCtorEq,
          exists_const, add_zero, add_le_iff_nonpos_left, nonpos_iff_eq_zero,
          AddLeftCancelMonoid.add_eq_zero, List.countP_eq_zero, decide_eq_true_eq, one_ne_zero,
          and_false]

/-- One turn of the loop: the word names a modifier, it is not a second access modifier, and the
loop goes on from the updated flag and list. -/
theorem modifierLoop_cons {m : String} {ms : List String} {hasAccess : Bool}
    {mods : List Modifier} {r : Bool × List Modifier}
    (hloop : modifierLoop lower (m :: ms) hasAccess mods = .ok r) :
    ∃ mod, lower m = mod.keyword ∧ ¬(mod.keyword ∈ accessKeywords ∧ hasAccess = true) ∧
      modifierLoop lower ms (hasAccess || decide (mod.keyword ∈ accessKeywords))
        (if mod ∈ mods then mods else mods ++ [mod]) = .ok r := by
  cases hmod : stringToMod lower m with
  | error e => simp [modifierLoop, hmod] at hloop
  | ok mod =>
    simp only [modifierLoop, hmod, access_eq_keyword] at hloop
    split at hloop
    · cases hloop
    · rename_i hsecond
      exact ⟨mod, (stringToMod_eq_ok lower).mp hmod,
        fun ⟨hin, hon⟩ => hsecond (by simp [hin, hon]), hloop⟩

/-- What the loop returns: the flag says whether an access modifier was met, the modifiers are the
distinct ones in the order they were first named (`eraseDups` keeps first occurrences), without
duplicates and with as many access modifiers as the flag says. -/
theorem modifierLoop_result {ms : List String} {hasAccess hasAccess' : Bool}
    {mods mods' : List Modifier}
    (hloop : modifierLoop lower ms hasAccess mods = .ok (hasAccess', mods')) :
    hasAccess' = (hasAccess || decide (0 < ms.countP (fun m => lower m ∈ accessKeywords))) ∧
      mods'.map Modifier.keyword =
        List.eraseDups.loop (ms.map lower) (mods.map Modifier.keyword).reverse ∧
      (mods.Nodup → mods'.Nodup) ∧
      (mods.countP (fun mod => mod.keyword ∈ accessKeywords) = (if hasAccess then 1 else 0) →
        mods'.countP (fun mod => mod.keyword ∈ accessKeywords) =
          if hasAccess' then 1 else 0) := by
  induction ms generalizing hasAccess mods with
  | nil =>
    simp only [modifierLoop, Except.ok.injEq, Prod.mk.injEq] at hloop
    obtain ⟨rfl, rfl⟩ := hloop
    simp [List.eraseDups.loop]
  | cons m ms ih =>
    obtain ⟨mod, hkw, hsecond, hloop⟩ := modifierLoop_cons lower hloop
    obtain ⟨hflag, hkeywords, hnodup, hcount⟩ := ih hloop
    have hmem : (mods.map Modifier.keyword).reverse.elem (lower m) = decide (mod ∈ mods) := by
      simp [hkw, List.mem_map_of_injective Modifier.keyword_injective]
    refine ⟨?_, ?_, ?_, ?_⟩
    · rw [hflag, List.countP_cons, hkw]
      by_cases hin : mod.keyword ∈ accessKeywords <;> cases hasAccess <;> simp [hin]
    · rw [hkeywords, List.map_cons, List.eraseDups.loop, hmem]
      by_cases hin : mod ∈ mods <;> simp [hin, hkw]
    · intro hmods
      apply hnodup
      split
      · exact hmods
      · simpa using hmods.concat ‹_›
    · intro hmods
      apply hcount
      by_cases hin : mod.keyword ∈ accessKeywords
      · have hoff : hasAccess = false := by simpa [hin] using hsecond
        subst hoff
        have hfresh : mod ∉ mods := by
          intro hmem'
          have : 0 < mods.countP (fun mod => decide (mod.keyword ∈ accessKeywords)) :=
            List.countP_pos_iff.mpr ⟨mod, hmem', by simpa using hin⟩
          simp only [hmods, Bool.false_eq_true, if_false] at this
          omega
        simp [hfresh, hin, hmods]
      · split <;> simp [hin, hmods]

/-- `FromAST` succeeds exactly when every modifier word names a modifier and exactly one word names
an access modifier. The action's modifiers are then the distinct ones in the order the words first
name them: none twice, and exactly one of `PUBLIC`, `PRIVATE` and `SYSTEM`. -/
theorem fromAST_modifiers (a : Action Stmt NamedType) (ast : CreateActionStatement Stmt NamedType) :
    ((∃ a', fromAST lower a ast = .ok a') ↔
      (∀ m ∈ ast.modifiers, lower m ∈ modifierKeywords) ∧
        ast.modifiers.countP (fun m => lower m ∈ accessKeywords) = 1) ∧
    ∀ a', fromAST lower a ast = .ok a' →
      a'.modifiers.map Modifier.keyword = (ast.modifiers.map lower).eraseDups ∧
        a'.modifiers.Nodup ∧
        a'.modifiers.countP (fun mod => mod.keyword ∈ accessKeywords) = 1 := by
  have hok := modifierLoop_ok_iff lower ast.modifiers false []
  simp only [Bool.false_eq_true, if_false, Nat.add_zero] at hok
  unfold fromAST
  cases hloop : modifierLoop lower ast.modifiers false [] with
  | error e =>
    have hnot : ¬((∀ m ∈ ast.modifiers, lower m ∈ modifierKeywords) ∧
        ast.modifiers.countP (fun m => lower m ∈ accessKeywords) ≤ 1) := by
      rw [← hok, hloop]
      rintro ⟨_, ⟨⟩⟩
    exact ⟨iff_of_false (by rintro ⟨_, ⟨⟩⟩) fun ⟨hvalid, hone⟩ =>
        hnot ⟨hvalid, hone.le⟩,
      fun _ h => by cases h⟩
  | ok r =>
    obtain ⟨hasAccess, mods⟩ := r
    obtain ⟨hflag, hkeywords, hnodup, hcount⟩ := modifierLoop_result lower hloop
    obtain ⟨hvalid, hle⟩ := hok.mp ⟨_, hloop⟩
    cases hasAccess
    · simp only [Bool.false_or, false_eq_decide_iff, Nat.not_lt, Nat.le_zero] at hflag
      exact ⟨iff_of_false (by rintro ⟨_, ⟨⟩⟩) fun ⟨_, hone⟩ => by omega,
        fun _ h => by cases h⟩
    · simp only [Bool.false_or, true_eq_decide_iff] at hflag
      refine ⟨iff_of_true ⟨_, rfl⟩ ⟨hvalid, by omega⟩, ?_⟩
      rintro a' ⟨⟩
      exact ⟨hkeywords, hnodup List.nodup_nil, by simpa using hcount⟩

end FromAST

end KwilDb
