import CloudLifecycle.Cli.Program

/-!
# What a simulation shows

The output of a simulation, written out line by line. A result is shown as a mark, what was asked for, and an object with
one member a line, indented by two spaces. The lines are given here as they stand in the output, without the encoding of
results and the printer of JSON; `resultText_accepted` and `resultText_failure` say that those come to the same, and
`runText_made` and `runText_unmade` put the life of a resource together from them.
-/

namespace CloudLifecycle.Cli

/-! ## Lines -/

/-- The text of some lines. -/
def unlines (lines : List String) : String := String.join (lines.map (· ++ "\n"))

@[simp] theorem unlines_nil : unlines [] = "" := rfl

@[simp] theorem unlines_cons (l : String) (lines : List String) : unlines (l :: lines) = line l ++ unlines lines :=
  String.join_cons

@[simp] theorem unlines_append (above below : List String) : unlines (above ++ below) = unlines above ++ unlines below := by
  rw [unlines, List.map_append, String.join_append]
  rfl

theorem join_map_unlines {α : Type} (lines : α → List String) (xs : List α) :
    String.join (xs.map fun x => unlines (lines x)) = unlines (xs.flatMap lines) := by
  induction xs with
  | nil => rfl
  | cons x xs ih => rw [List.map_cons, String.join_cons, ih, List.flatMap_cons, unlines_append]

/-! ## Results -/

/-- What is shown of something that a backend has accepted. -/
def acceptedLines (label id : String) (state : LifecycleState) : List String :=
  ["✓ " ++ label,
    "\x7b",
    "  \"success\": true,",
    "  \"new_state\": \"" ++ state.name ++ "\",",
    "  \"status_hint\": 202,",
    "  \"resource_id\": " ++ Json.literal id,
    "\x7d"]

/-- What is shown of something that has failed. -/
def failureLines (label : String) (category : ErrorCategory) (effect : SideEffect) (message : String) : List String :=
  ["✗ " ++ label,
    "\x7b",
    "  \"success\": false,",
    "  \"status_hint\": " ++ toString category.statusHint.toNat ++ ",",
    "  \"error\": \x7b",
    "    \"category\": \"" ++ category.name ++ "\",",
    "    \"side_effect\": \"" ++ effect.name ++ "\",",
    "    \"message\": " ++ Json.literal message,
    "  \x7d",
    "\x7d"]

/-! ### Names need no escapes -/

theorem literal_state (state : LifecycleState) : Json.literal state.name = "\"" ++ state.name ++ "\"" := by
  cases state <;> rfl

theorem literal_category (category : ErrorCategory) : Json.literal category.name = "\"" ++ category.name ++ "\"" := by
  cases category <;> rfl

theorem literal_effect (effect : SideEffect) : Json.literal effect.name = "\"" ++ effect.name ++ "\"" := by
  cases effect <;> rfl

/-! ### What the program shows -/

theorem resultText_accepted (label id : String) (state : LifecycleState) :
    resultText label (.accepted id state) = unlines (acceptedLines label id state) := by
  have success : (ActionResult.accepted id state).success = true := rfl
  have members : Wire.encode (ActionResult.accepted id state) =
      .obj [("success", .bool true), ("new_state", .str state.name), ("status_hint", .int 202),
        ("resource_id", .str id)] := rfl
  have hint : Int.repr 202 = "202" := rfl
  rw [resultText, success, members]
  apply String.toList_inj.mp
  simp only [Json.pretty, Json.prettyAt, Json.membersAt, literal_state, acceptedLines]
  -- the literal of the id is the same on both sides
  generalize Json.literal id = shown
  simp [line, Json.indent, Json.literal, Json.escapeChar, hint]

theorem resultText_failure (label : String) (category : ErrorCategory) (effect : SideEffect) (message : String) :
    resultText label (.failure category effect message) = unlines (failureLines label category effect message) := by
  have failed : (ActionResult.failure category effect message).success = false := rfl
  have members : Wire.encode (ActionResult.failure category effect message) =
      .obj [("success", .bool false), ("status_hint", .int category.statusHint.toNat),
        ("error", .obj [("category", .str category.name), ("side_effect", .str effect.name),
          ("message", .str message)])] := rfl
  have hint : (category.statusHint.toNat : Int).repr = category.statusHint.toNat.repr := rfl
  rw [resultText, failed, members]
  apply String.toList_inj.mp
  simp only [Json.pretty, Json.prettyAt, Json.membersAt, literal_category, literal_effect, failureLines]
  generalize Json.literal message = shown
  simp [line, Json.indent, Json.literal, Json.escapeChar, hint]

/-! ## Lives -/

/-- How a resource has come up. -/
theorem converged_line (state : LifecycleState) :
    "収束: " ++ (Outcome.converged state).diagnostic = "収束: Converged(" ++ state.word ++ ")" := by
  have diagnostic : (Outcome.converged state).diagnostic = "Converged(" ++ state.word ++ ")" := rfl
  rw [diagnostic]
  apply String.toList_inj.mp
  simp

/-- How the attempts have run out. -/
theorem exhausted_line (attempts : Nat) (seen : LifecycleState) :
    "収束: " ++ (Outcome.exhausted attempts (some seen)).diagnostic =
      "収束: Exhausted \x7b attempts: " ++ toString attempts ++ ", last_seen: Some(" ++ seen.word ++ ") \x7d" := by
  have diagnostic : (Outcome.exhausted attempts (some seen)).diagnostic =
      "Exhausted \x7b attempts: " ++ toString attempts ++ ", last_seen: " ++ ("Some(" ++ seen.word ++ ")") ++ " \x7d" := rfl
  rw [diagnostic]
  apply String.toList_inj.mp
  simp

/-- What is shown of a life, result by result. -/
theorem runText_eq (r : SimulationRun) :
    runText r = resultText "create" r.created ++ ((r.outcome.map fun o => line ("収束: " ++ o.diagnostic)).getD "") ++
      String.join (r.actions.map fun sent => resultText sent.1 sent.2) ++
      ((r.finalStatus.map fun raw => line ("最終ステータス (raw): " ++ raw)).getD "") := rfl

/-- What is shown of a resource that is not made. -/
theorem runText_unmade (backend : String) (kind : ResourceKind) (failure : Option SimulationFailure) :
    runText ⟨.notSupported backend (.create kind), none, [], none, failure⟩ =
      unlines (failureLines "create" .notSupported .none
        ("Backend '" ++ backend ++ "' does not support '" ++ (Operation.create kind).name ++ "'")) := by
  simp only [runText_eq, ActionResult.notSupported, resultText_failure, Option.map_none, Option.getD_none, List.map_nil,
    String.join_nil, String.append_empty]

/-- What is shown of a resource that is made, and of the actions that it is taken through. -/
theorem runText_made (id : String) (outcome : Outcome) (taken : List (String × LifecycleState)) (final : Option String)
    (failure : Option SimulationFailure) :
    runText ⟨.accepted id .pending, some outcome, taken.map fun t => (t.1, .accepted id t.2), final, failure⟩ =
      unlines (acceptedLines "create" id .pending ++ ["収束: " ++ outcome.diagnostic] ++
        taken.flatMap (fun t => acceptedLines t.1 id t.2) ++
        (final.map fun raw => "最終ステータス (raw): " ++ raw).toList) := by
  have actions : String.join ((taken.map fun t => (t.1, ActionResult.accepted id t.2)).map fun sent =>
      resultText sent.1 sent.2) = unlines (taken.flatMap fun t => acceptedLines t.1 id t.2) := by
    rw [List.map_map, ← join_map_unlines]
    exact congrArg String.join (List.map_congr_left fun t _ => resultText_accepted t.1 id t.2)
  rw [runText_eq, actions, resultText_accepted]
  cases final <;> simp [String.append_assoc]

end CloudLifecycle.Cli
