/-
Module: ClaudeProxy.Proofs.ConfigHistory
Layer: Proofs
Purpose: The history of the configuration. A request that stores a configuration reads the largest
  version number with one statement and inserts the next with another, and the table has no constraint
  on the numbers; so they stay apart as long as nobody reads while another request is about to insert,
  and the number that is read can be raised.
Trusted boundary: none
Main exports: ConfigCall, ConfigPool, ConfigPool.step, DistinctVersions, Undisturbed, LinearHistory,
  history_linear
-/
import ClaudeProxy.Dashboard.Startup
import ClaudeProxy.Library.Keyed
import ClaudeProxy.Library.Run
import ClaudeProxy.Proofs.DashboardAccess
import ClaudeProxy.Proofs.Fallback

namespace ClaudeProxy.Dashboard

open Library

/-! ### Requests that store a configuration -/

inductive ConfigCall where
  | update (payload : Value)
  | revert (version : Int32)

/-- A response beside the request that it answers. -/
abbrev ConfigResult := ConfigCall × Option Response

abbrev ConfigProgram := Program Statement Statement.Answer ConfigResult

abbrev ConfigPool := Pool Statement Statement.Answer ConfigResult Database

/-- `ApiResponse::success` of a text. -/
def textAnswer (text : String) : Response :=
  { body := .api { success := true, data := some (.text text), error := none } }

def Response.succeeded (response : Response) : Bool :=
  match response.body with
  | .api answer => answer.success
  | _ => false

/-- The number that the largest version leads to. -/
def nextVersion (current : Except SqlError Int32) : Int32 :=
  (match current with | .ok version => version | .error _ => 0) + 1

namespace ConfigCall

/-- The text of success under a version number. -/
def message : ConfigCall → Int32 → String
  | .update _, version => s!"Configuration updated to version {version}"
  | .revert old, version => s!"Reverted to version {old} as version {version}"

def handler (crates : DashboardCrates) : ConfigCall → Handler
  | .update payload => updateConfig crates payload
  | .revert version => revertVersion crates version

def program (crates : DashboardCrates) (call : ConfigCall) : ConfigProgram :=
  (call.handler crates).map fun response => (call, response)

end ConfigCall

/-- A request comes in, the next statement of one at work is served, or its client goes away. -/
abbrev ConfigMove := Move ConfigCall Served

def ConfigPool.step (crates : DashboardCrates) (pool : ConfigPool) (move : ConfigMove) : ConfigPool :=
  pool.move Database.serve (ConfigCall.program crates) move

def ConfigPool.rows (pool : ConfigPool) : List ConfigVersionRow := pool.state.configVersions.rows

def DistinctVersions (rows : List ConfigVersionRow) : Prop := (rows.map (·.version)).Nodup

instance (rows : List ConfigVersionRow) : Decidable (DistinctVersions rows) :=
  inferInstanceAs (Decidable (rows.map (·.version)).Nodup)

/-! ### What is stored -/

/-- The table has a configuration under a version number, and finds that one. -/
def Holds (database : Database) (version : Int32) (configData : String) : Prop :=
  ∃ row, database.configVersions.rows.find? (·.version == version) = some row ∧
    row.configData = configData

/-- What a request is to store: the YAML of a valid configuration, or the configuration of an old
version. -/
def ConfigCall.Stores (crates : DashboardCrates) (database : Database) (configData : String) :
    ConfigCall → Prop
  | .update payload => ∃ config,
      AppConfig.loadFromValue crates.crates crates.environment crates.configFromValue payload =
        .ok config ∧ crates.configToYaml config = .ok configData
  | .revert version => Holds database version configData

/-- A request that answers with success names a version under which its configuration is stored. -/
def Answered (crates : DashboardCrates) (database : Database) (result : ConfigResult) : Prop :=
  ∀ response, result.2 = some response → response.succeeded = true →
    ∃ version configData, response = textAnswer (result.1.message version) ∧
      result.1.Stores crates database configData ∧ Holds database version configData

/-- No later row is found before one that is found. -/
theorem Holds.append {database later : Database} {version : Int32} {configData : String}
    (holds : Holds database version configData)
    (grown : database.configVersions.rows <+: later.configVersions.rows) :
    Holds later version configData := by
  obtain ⟨row, found, sameData⟩ := holds
  obtain ⟨more, moreEq⟩ := grown
  refine ⟨row, ?_, sameData⟩
  rw [← moreEq, List.find?_append, found]
  rfl

/-- What a call has stored stays stored when there are more versions. -/
theorem ConfigCall.Stores.append {crates : DashboardCrates} {database later : Database}
    {configData : String} {call : ConfigCall} (stores : call.Stores crates database configData)
    (grown : database.configVersions.rows <+: later.configVersions.rows) :
    call.Stores crates later configData := by
  cases call with
  | update payload => exact stores
  | revert version => exact Holds.append stores grown

/-- So does what it was answered. -/
theorem Answered.append {crates : DashboardCrates} {database later : Database}
    {result : ConfigResult} (answered : Answered crates database result)
    (grown : database.configVersions.rows <+: later.configVersions.rows) :
    Answered crates later result := by
  intro response isResponse succeeded
  obtain ⟨version, configData, sameResponse, stores, holds⟩ :=
    answered response isResponse succeeded
  exact ⟨version, configData, sameResponse, stores.append grown, holds.append grown⟩

/-- A new row under a number of its own is found, and keeps the numbers apart. -/
theorem holds_insert {database after : Database} {row : ConfigVersionRow}
    (isAfter : after.configVersions.rows = database.configVersions.rows ++ [row])
    (fresh : ∀ other ∈ database.configVersions.rows, other.version ≠ row.version) :
    Holds after row.version row.configData := by
  refine ⟨row, ?_, rfl⟩
  have notBefore : database.configVersions.rows.find? (·.version == row.version) = none := by
    apply List.find?_eq_none.mpr
    intro other member sameVersion
    exact fresh other member (eq_of_beq sameVersion)
  rw [isAfter, List.find?_append, notBefore]
  simp

/-- A version with a new number keeps the numbers distinct. -/
theorem DistinctVersions.insert {rows : List ConfigVersionRow} {row : ConfigVersionRow}
    (distinct : DistinctVersions rows) (fresh : ∀ other ∈ rows, other.version ≠ row.version) :
    DistinctVersions (rows ++ [row]) := by
  apply distinct_append rfl distinct
  rw [List.any_eq_false]
  intro other member sameVersion
  exact fresh other member (eq_of_beq sameVersion)

/-! ### Version numbers -/

/-- Below the greatest number the next one is greater. -/
theorem lt_next {version : Int32} (bounded : version < Int32.maxValue) : version < version + 1 := by
  rw [Int32.lt_iff_toInt_lt] at bounded ⊢
  have atLeast := version.le_toInt
  have largest : Int32.maxValue.toInt = 2147483647 := rfl
  have one : (1 : Int32).toInt = 1 := rfl
  rw [Int32.toInt_add, one, Int.bmod_eq_of_le]
  · omega
  · omega
  · omega

/-- No number is above the greatest of all. -/
theorem le_maximum {versions : List Int32} {version : Int32} (member : version ∈ versions) :
    version ≤ versions.max?.getD 0 := by
  have lawful : Std.LawfulOrderMax Int32 := by
    apply Std.LawfulOrderMax.of_max_le_iff
    · intro first second bound
      change (if first ≤ second then second else first) ≤ bound ↔ _
      by_cases ascending : first ≤ second
      · rw [if_pos ascending]
        exact ⟨fun below => ⟨Int32.le_trans ascending below, below⟩, fun both => both.2⟩
      · have descending := (Int32.le_total first second).resolve_left ascending
        rw [if_neg ascending]
        exact ⟨fun below => ⟨below, Int32.le_trans descending below⟩, fun both => both.1⟩
    · intro first second
      change (if first ≤ second then second else first) = first ∨
        (if first ≤ second then second else first) = second
      split
      · exact .inr rfl
      · exact .inl rfl
  cases largest : versions.max? with
  | none =>
      rw [List.max?_eq_none_iff.mp largest] at member
      cases member
  | some maximum => exact (List.max?_eq_some_iff.mp largest).2 version member

/-- The next number is above those of all rows, unless it wraps around. -/
theorem above_rows {rows : List ConfigVersionRow} (bounded : maxVersion rows < Int32.maxValue) :
    ∀ row ∈ rows, row.version < maxVersion rows + 1 := by
  intro row member
  have atMost : row.version ≤ maxVersion rows :=
    le_maximum (List.mem_map_of_mem member)
  exact Int32.lt_of_le_of_lt atMost (lt_next bounded)

/-! ### Version numbers in texts -/

/-- The digits of a number stand for it. -/
theorem digits_value (number : Nat) :
    (Nat.toDigits 10 number).foldl
      (fun value symbol => 10 * value + (symbol.toNat - '0'.toNat)) 0 = number := by
  induction number using Nat.strong_induction_on with
  | _ number inductionHypothesis =>
      rw [Nat.toDigits_eq_if (by decide)]
      by_cases small : number < 10
      · rw [if_pos small, List.foldl_cons, List.foldl_nil]
        have digit := Nat.toNat_digitChar_sub_48_of_lt_ten small
        change 10 * 0 + (number.digitChar.toNat - 48) = number
        omega
      · rw [if_neg small, List.foldl_append, inductionHypothesis (number / 10) (by omega),
          List.foldl_cons, List.foldl_nil]
        have digit := Nat.toNat_digitChar_sub_48_of_lt_ten (Nat.mod_lt number (by decide : 0 < 10))
        change 10 * (number / 10) + ((number % 10).digitChar.toNat - 48) = number
        omega

/-- They are read as the number. -/
theorem parseDigits_repr (number : Nat) : parseDigits number.repr.toList = some number := by
  have digits : ∀ symbol ∈ Nat.toDigits 10 number, symbol.isDigit = true :=
    fun symbol member => Nat.isDigit_of_mem_toDigits (by decide) (by decide) member
  rw [Nat.toList_repr, parseDigits, if_neg, digits_value]
  rintro (empty | other)
  · exact Nat.toDigits_ne_nil empty
  · obtain ⟨symbol, member, notDigit⟩ := List.any_eq_true.mp other
    rw [digits symbol member] at notDigit
    cases notDigit

/-- A number in a text is read back as itself. -/
theorem parseSigned_repr (number : Int) : parseSigned number.repr.toList = some number := by
  rw [Int.repr_eq_if]
  by_cases nonnegative : 0 ≤ number
  · rw [if_pos nonnegative]
    have parsed := parseDigits_repr number.toNat
    have digits : ∀ symbol ∈ number.toNat.repr.toList, symbol.isDigit = true := by
      rw [Nat.toList_repr]
      exact fun symbol member => Nat.isDigit_of_mem_toDigits (by decide) (by decide) member
    unfold parseSigned
    split
    · rename_i rest shape
      have sign := digits '-' (by rw [shape]; exact List.mem_cons_self)
      cases sign
    · rename_i rest shape
      have sign := digits '+' (by rw [shape]; exact List.mem_cons_self)
      cases sign
    · rw [parsed]
      simp [Int.toNat_of_nonneg nonnegative]
  · rw [if_neg nonnegative]
    have parsed := parseDigits_repr (-number).toNat
    have sign : "-".toList = ['-'] := by decide
    rw [String.toList_append, sign, List.singleton_append, parseSigned, parsed]
    simp
    omega

/-- Texts of success tell version numbers apart. -/
theorem ConfigCall.message_injective (call : ConfigCall) : Function.Injective call.message := by
  intro first second same
  have sameText : first.toInt.repr = second.toInt.repr := by
    cases call with
    | update payload =>
        have texts : toString "Configuration updated to version " ++ toString first =
            toString "Configuration updated to version " ++ toString second := same
        exact (String.append_right_inj _).mp texts
    | revert old =>
        have texts :
            toString "Reverted to version " ++ toString old ++ toString " as version " ++
                toString first =
              toString "Reverted to version " ++ toString old ++ toString " as version " ++
                toString second := same
        exact (String.append_right_inj _).mp texts
  have read := parseSigned_repr first.toInt
  rw [sameText, parseSigned_repr second.toInt] at read
  exact Int32.toInt.inj (Option.some.inj read).symm

/-! ### Where a request stands -/

namespace ConfigCall

variable (crates : DashboardCrates)

/-- After its row is inserted, or refused. -/
def written (call : ConfigCall) (version : Int32) : Except SqlError Unit → ConfigProgram
  | .ok _ => (Handler.success (.text (call.message version))).map fun response => (call, response)
  | .error error => (databaseError crates error).map fun response => (call, response)

/-- After it has the largest number, or failed to read it. -/
def numbered (call : ConfigCall) (configData : String) (current : Except SqlError Int32) :
    ConfigProgram :=
  .ask (.insertConfigVersion (nextVersion current) configData "admin")
    (call.written crates (nextVersion current))

/-- After the configuration of the old version is read, or not found. -/
def looked (call : ConfigCall) : Except SqlError (Option String) → ConfigProgram
  | .ok (some configData) => .ask .selectMaxVersion (call.numbered crates configData)
  | .ok none => (Handler.failure "Version not found").map fun response => (call, response)
  | .error error => (databaseError crates error).map fun response => (call, response)

/-- A call asks for the greatest number first. -/
theorem insertNextVersion_map (call : ConfigCall) (configData : String) :
    ((insertNextVersion crates configData call.message).map fun response => (call, response)) =
      .ask .selectMaxVersion (call.numbered crates configData) := by
  refine congrArg (Program.ask Statement.selectMaxVersion) (funext fun current => ?_)
  refine congrArg
    (Program.ask (Statement.insertConfigVersion (nextVersion current) configData "admin"))
    (funext fun answer => ?_)
  cases answer with
  | ok inserted => rfl
  | error error => rfl

end ConfigCall

/-- What a request at work has found out, and what it will do with it. -/
inductive Phase (crates : DashboardCrates) (database : Database) :
    ConfigCall → ConfigProgram → Prop where
  | looking (old : Int32) :
      Phase crates database (.revert old)
        (.ask (.selectConfigData old) ((ConfigCall.revert old).looked crates))
  | reading (call : ConfigCall) (configData : String)
      (stores : call.Stores crates database configData) :
      Phase crates database call (.ask .selectMaxVersion (call.numbered crates configData))
  | writing (call : ConfigCall) (version : Int32) (configData : String)
      (stores : call.Stores crates database configData)
      (fresh : ∀ row ∈ database.configVersions.rows, row.version ≠ version) :
      Phase crates database call
        (.ask (.insertConfigVersion version configData "admin") (call.written crates version))
  | ended (call : ConfigCall) (response : Option Response)
      (answered : Answered crates database (call, response)) :
      Phase crates database call (.done (call, response))

/-- A request before its insertion has a number in hand. -/
def ConfigProgram.atInsert : ConfigProgram → Bool
  | .ask (.insertConfigVersion ..) _ => true
  | _ => false

/-- A failure promises nothing. -/
theorem answered_failure {crates : DashboardCrates} {database : Database} {call : ConfigCall}
    {text : String} :
    Answered crates database
      (call, some { body := .api { success := false, data := none, error := some text } }) := by
  intro response isResponse succeeded
  cases isResponse
  cases succeeded

/-- A new request looks for the old configuration, reads the largest number, or has failed. -/
theorem Phase.start (crates : DashboardCrates) (database : Database) (call : ConfigCall) :
    Phase crates database call (call.program crates) := by
  cases call with
  | revert old =>
      have looks : (ConfigCall.revert old).program crates =
          .ask (.selectConfigData old) ((ConfigCall.revert old).looked crates) := by
        refine congrArg (Program.ask (Statement.selectConfigData old)) (funext fun answer => ?_)
        cases answer with
        | error error => rfl
        | ok found =>
            cases found with
            | none => rfl
            | some configData =>
                exact ConfigCall.insertNextVersion_map crates (.revert old) configData
      rw [looks]
      exact .looking old
  | update payload =>
      simp only [ConfigCall.program, ConfigCall.handler, updateConfig]
      cases loaded : AppConfig.loadFromValue crates.crates crates.environment
          crates.configFromValue payload with
      | error error => exact .ended _ _ answered_failure
      | ok config =>
          dsimp only
          cases written : crates.configToYaml config with
          | error error => exact .ended _ _ answered_failure
          | ok configData =>
              have reads := ConfigCall.insertNextVersion_map crates (.update payload) configData
              dsimp only
              change Phase _ _ _ ((insertNextVersion crates configData
                (ConfigCall.update payload).message).map _)
              rw [reads]
              exact .reading _ configData ⟨config, loaded, written⟩

/-- Rows that others append matter to nobody who has no number in hand. -/
theorem Phase.append {crates : DashboardCrates} {database later : Database} {call : ConfigCall}
    {program : ConfigProgram} (phase : Phase crates database call program)
    (grown : database.configVersions.rows <+: later.configVersions.rows)
    (noNumber : program.atInsert = false) : Phase crates later call program := by
  cases phase with
  | looking old => exact .looking old
  | reading call configData stores => exact .reading call configData (stores.append grown)
  | writing call version configData stores fresh => cases noNumber
  | ended call response answered => exact .ended call response (answered.append grown)

/-! ### One statement -/

/-- No statement changes or removes a row of `config_versions`. -/
theorem serve_grows (served : Served) (statement : Statement) (database : Database) :
    database.configVersions.rows <+:
      (database.serve served statement).2.configVersions.rows := by
  by_cases inserts : statement.target = some .configVersions
  · cases statement with
    | insertConfigVersion version configData createdBy =>
        rcases database.serve_cases served (.insertConfigVersion version configData createdBy) with
          ⟨error, same, _⟩ | ⟨inserted, after, isAfter, _, executed⟩
        · rw [same]
        · cases executed
          rw [isAfter]
          exact List.prefix_append _ _
    | _ => cases inserts
  · rw [(serve_untouched served statement database).configVersions inserts]

/-- A number read now is on no row: the largest was read and can be raised, or the read failed and
no row has number 1. -/
def Readable (served : Served) (rows : List ConfigVersionRow) : Prop :=
  (served.fault = none → maxVersion rows < Int32.maxValue) ∧
    (served.fault ≠ none → ∀ row ∈ rows, row.version ≠ 1)

/-- The number that follows the greatest one is a new one. -/
theorem Readable.fresh {served : Served} {database : Database}
    (readable : Readable served database.configVersions.rows) :
    ∀ row ∈ database.configVersions.rows,
      row.version ≠ nextVersion (database.serve served .selectMaxVersion).1 := by
  intro row member
  obtain ⟨raised, first⟩ := readable
  rcases database.serve_cases served .selectMaxVersion with
    ⟨error, isError, fault⟩ | ⟨largest, after, isAfter, noFault, executed⟩
  · have faulty : served.fault ≠ none := by
      rcases fault with fault | ⟨_, executed⟩
      · simp [fault]
      · cases executed
    rw [isError]
    exact first faulty row member
  · cases executed
    rw [isAfter]
    exact Int32.ne_of_lt (above_rows (raised noFault) row member)

/-- A served statement leads a request to its next phase, keeps the numbers apart and leaves the
tables as they are unless it is the insertion. -/
theorem Phase.served {crates : DashboardCrates} {database : Database} {call : ConfigCall}
    {statement : Statement} {resume : statement.Answer → ConfigProgram}
    (phase : Phase crates database call (.ask statement resume)) (served : Served)
    (readable : statement = .selectMaxVersion → Readable served database.configVersions.rows) :
    let (answer, after) := database.serve served statement
    Phase crates after call (resume answer) ∧
      (DistinctVersions database.configVersions.rows →
        DistinctVersions after.configVersions.rows) ∧
      (ConfigProgram.atInsert (.ask statement resume) = false → after = database) := by
  have outcome := database.serve_cases served statement
  cases phase with
  | looking old =>
      rcases outcome with ⟨error, same, _⟩ | ⟨found, after, isAfter, _, executed⟩
      · rw [same]
        exact ⟨.ended _ _ answered_failure, fun distinct => distinct, fun _ => rfl⟩
      · cases executed
        rw [isAfter]
        refine ⟨?_, fun distinct => distinct, fun _ => rfl⟩
        cases isFound : database.configVersions.rows.find? (·.version == old) with
        | none =>
            rw [Option.map_none]
            exact .ended _ _ answered_failure
        | some row =>
            rw [Option.map_some]
            exact .reading _ _ ⟨row, isFound, rfl⟩
  | reading call configData stores =>
      have fresh := (readable rfl).fresh
      have same : (database.serve served .selectMaxVersion).2 = database := by
        rcases outcome with ⟨error, same, _⟩ | ⟨largest, after, isAfter, _, executed⟩
        · rw [same]
        · cases executed
          rw [isAfter]
      dsimp only
      rw [same]
      exact ⟨.writing _ _ _ stores fresh, fun distinct => distinct, fun _ => rfl⟩
  | writing call version configData stores fresh =>
      have grown := serve_grows served (.insertConfigVersion version configData "admin") database
      rcases outcome with ⟨error, same, _⟩ | ⟨inserted, after, isAfter, _, executed⟩
      · rw [same]
        exact ⟨.ended _ _ answered_failure, fun distinct => distinct,
          fun atInsert => by cases atInsert⟩
      · cases executed
        rw [isAfter] at grown ⊢
        refine ⟨.ended _ _ ?_, fun distinct => distinct.insert fresh,
          fun atInsert => by cases atInsert⟩
        intro response isResponse _
        cases isResponse
        refine ⟨version, configData, rfl, stores.append grown, ?_⟩
        exact @holds_insert database _
          { id := _, version := version, configData := configData, createdAt := served.now
            createdBy := "admin" } rfl fresh

/-! ### One move -/

/-- How the read of the largest number is served, when the move is one. -/
def ConfigPool.reads (pool : ConfigPool) : ConfigMove → Option Served
  | .advance index served =>
      match pool.running[index]? with
      | some (.ask .selectMaxVersion _) => some served
      | _ => none
  | _ => none

/-- Whenever a request reads the largest number, that works out and no other request is before its
insertion. -/
def ConfigPool.Undisturbed (pool : ConfigPool) (move : ConfigMove) : Prop :=
  ∀ served ∈ pool.reads move,
    Readable served pool.rows ∧ ∀ program ∈ pool.running, ConfigProgram.atInsert program = false

instance (served : Served) (rows : List ConfigVersionRow) : Decidable (Readable served rows) :=
  inferInstanceAs (Decidable (_ ∧ _))

instance (pool : ConfigPool) (move : ConfigMove) : Decidable (pool.Undisturbed move) :=
  inferInstanceAs (Decidable (∀ served ∈ pool.reads move,
    Readable served pool.rows ∧ ∀ program ∈ pool.running, ConfigProgram.atInsert program = false))

/-- The numbers are apart, at most one request has a number in hand, and every request at work or
answered is where it should be. -/
structure Consistent (crates : DashboardCrates) (pool : ConfigPool) : Prop where
  distinct : DistinctVersions pool.rows
  exclusive : pool.Exclusive ConfigProgram.atInsert
  coherent : pool.Coherent (fun database program => ∃ call, Phase crates database call program)
    (Answered crates)

/-- A call begins before its insertion. -/
theorem start_notAtInsert (crates : DashboardCrates) (call : ConfigCall) :
    (call.program crates).atInsert = false := by
  cases call with
  | revert old => rfl
  | update payload =>
      simp only [ConfigCall.program, ConfigCall.handler, updateConfig]
      cases AppConfig.loadFromValue crates.crates crates.environment crates.configFromValue
          payload with
      | error error => rfl
      | ok config =>
          dsimp only
          cases crates.configToYaml config with
          | error error => rfl
          | ok configData => rfl

/-- Only the statement that reads the largest number leads to an insertion. -/
theorem Phase.reads_of_atInsert {crates : DashboardCrates} {database : Database} {call : ConfigCall}
    {statement : Statement} {resume : statement.Answer → ConfigProgram} {answer : statement.Answer}
    (phase : Phase crates database call (.ask statement resume))
    (reached : (resume answer).atInsert = true) : statement = .selectMaxVersion := by
  cases phase with
  | looking old =>
      rcases answer with error | found
      · cases reached
      · cases found with
        | none => cases reached
        | some configData => cases reached
  | reading call configData stores => rfl
  | writing call version configData stores fresh =>
      cases answer with
      | error error => cases reached
      | ok inserted => cases reached

/-- The step lemma. -/
theorem Consistent.step {crates : DashboardCrates} {pool : ConfigPool} {move : ConfigMove}
    (undisturbed : pool.Undisturbed move) (consistent : Consistent crates pool) :
    Consistent crates (pool.step crates move) := by
  obtain ⟨distinct, exclusive, coherent⟩ := consistent
  have readable : ∀ index served statement resume, move = .advance index served →
      pool.running[index]? = some (.ask statement resume) → statement = .selectMaxVersion →
      Readable served pool.rows ∧ ∀ program ∈ pool.running, ConfigProgram.atInsert program = false := by
    intro index served statement resume isMove found reads
    subst isMove reads
    apply undisturbed
    simp [ConfigPool.reads, found]
  constructor
  · rcases Pool.move_state Database.serve (ConfigCall.program crates) pool move with
      same | ⟨index, served, statement, resume, isMove, found, after⟩
    · unfold ConfigPool.step ConfigPool.rows
      rw [same]
      exact distinct
    · obtain ⟨call, phase⟩ := coherent.running _ (List.mem_of_getElem? found)
      have next := phase.served served fun reads =>
        (readable index served statement resume isMove found reads).1
      unfold ConfigPool.step ConfigPool.rows
      rw [after]
      exact next.2.1 distinct
  · apply exclusive.move
    · intro call _
      exact start_notAtInsert crates call
    · intro index served statement resume isMove found reached
      obtain ⟨call, phase⟩ := coherent.running _ (List.mem_of_getElem? found)
      exact (readable index served statement resume isMove found
        (phase.reads_of_atInsert reached)).2
  · apply coherent.move
    · intro call _
      exact ⟨call, Phase.start crates pool.state call⟩
    · rintro result ⟨call, phase⟩
      cases phase with
      | ended call response answered => exact answered
    · rintro index served statement resume isMove found ⟨call, phase⟩
      obtain ⟨here, _, unchanged⟩ := phase.served served fun reads =>
        (readable index served statement resume isMove found reads).1
      have grown := serve_grows served statement pool.state
      refine ⟨⟨call, here⟩, ?_, fun result answered => answered.append grown⟩
      rintro other program different foundOther ⟨otherCall, otherPhase⟩
      refine ⟨otherCall, ?_⟩
      by_cases inserts : (ConfigProgram.atInsert (.ask statement resume)) = true
      · exact otherPhase.append grown (exclusive.elsewhere found inserts different foundOther)
      · rw [unchanged (Bool.eq_false_of_not_eq_true inserts)]
        exact otherPhase

/-! ### Runs -/

/-- What `get_version` answers when nothing goes wrong. -/
def ShownUnder (crates : DashboardCrates) (database : Database) (version : Int32)
    (configData : String) : Prop :=
  ∃ shown : ConfigVersion, shown.version = version ∧ shown.configData = configData ∧
    ∀ now, ((getVersion crates version).alone Database.serve ⟨none, now⟩ database) =
      (some { body := .api ⟨true, some (.configVersion shown), none⟩ }, database)

def ConfigPool.run (crates : DashboardCrates) (database : Database) (moves : List ConfigMove) :
    ConfigPool :=
  moves.foldl (ConfigPool.step crates) (Pool.idle database)

/-- The history of the configuration is linear, at the end of a run from a database. -/
structure LinearHistory (crates : DashboardCrates) (database : Database) (moves : List ConfigMove) :
    Prop where
  distinct : DistinctVersions (ConfigPool.run crates database moves).rows
  kept : ∀ earlier later, moves = earlier ++ later →
    (ConfigPool.run crates database earlier).rows <+: (ConfigPool.run crates database moves).rows
  answered : ∀ call response,
    (call, some response) ∈ (ConfigPool.run crates database moves).finished →
      response.succeeded = true →
      (∃ version, response = textAnswer (call.message version)) ∧
      ∀ version, response = textAnswer (call.message version) → ∃ configData,
        call.Stores crates (ConfigPool.run crates database moves).state configData ∧
        ShownUnder crates (ConfigPool.run crates database moves).state version configData

/-- No step takes a version away. -/
theorem ConfigPool.step_rows (crates : DashboardCrates) (pool : ConfigPool) (move : ConfigMove) :
    pool.rows <+: (pool.step crates move).rows := by
  rcases Pool.move_state Database.serve (ConfigCall.program crates) pool move with
    same | ⟨index, served, statement, resume, _, _, after⟩
  · unfold ConfigPool.step ConfigPool.rows
    rw [same]
  · unfold ConfigPool.step ConfigPool.rows
    rw [after]
    exact serve_grows served statement pool.state

/-- So what is stored stays in every run. -/
theorem ConfigPool.run_rows (crates : DashboardCrates) (database : Database)
    (earlier later : List ConfigMove) :
    (ConfigPool.run crates database earlier).rows <+:
      (ConfigPool.run crates database (earlier ++ later)).rows := by
  unfold ConfigPool.run
  rw [List.foldl_append]
  apply foldl_invariant (fun pool : ConfigPool =>
    (ConfigPool.run crates database earlier).rows <+: pool.rows)
  · intro pool move grown
    exact grown.trans (pool.step_rows crates move)
  · exact List.prefix_rfl

/-- A version that is there is shown under its number. -/
theorem Holds.shown {crates : DashboardCrates} {database : Database} {version : Int32}
    {configData : String} (holds : Holds database version configData) :
    ShownUnder crates database version configData := by
  obtain ⟨row, found, sameData⟩ := holds
  have matched := List.find?_some found
  have sameVersion : row.version = version := eq_of_beq matched
  refine ⟨rowToConfigVersion row, sameVersion, sameData, ?_⟩
  intro now
  simp only [getVersion, fetchOptional, Program.alone, Database.serve, Statement.execute, found]
  rfl

/-- As long as every read of the largest number is in time, works out and leaves room, the history of
the configuration is linear. -/
theorem history_linear (crates : DashboardCrates) (database : Database)
    (distinct : DistinctVersions database.configVersions.rows) (moves : List ConfigMove)
    (undisturbed : Along (ConfigPool.step crates) ConfigPool.Undisturbed (Pool.idle database) moves) :
    LinearHistory crates database moves := by
  have atStart : Consistent crates (Pool.idle database) := by
    constructor
    · exact distinct
    · exact Nat.zero_le 1
    · constructor
      · intro program member
        cases member
      · intro result member
        cases member
  have consistent : Consistent crates (ConfigPool.run crates database moves) :=
    undisturbed.invariant (Consistent crates)
      (fun _ _ undisturbed consistent => consistent.step undisturbed) atStart
  constructor
  · exact consistent.distinct
  · intro earlier later split
    rw [split]
    exact ConfigPool.run_rows crates database earlier later
  · intro call response member succeeded
    obtain ⟨version, configData, isText, stores, holds⟩ :=
      consistent.coherent.finished _ member response rfl succeeded
    refine ⟨⟨version, isText⟩, ?_⟩
    intro other isOther
    have sameText : call.message other = call.message version := by
      have same := isOther.symm.trans isText
      simpa [textAnswer] using same
    rw [call.message_injective sameText]
    exact ⟨configData, stores, holds.shown⟩

/-! ### Two requests at once -/

/-- A configuration with one client, as it is posted. -/
def officePayload (client : String) : Value :=
  .object [
    ("clients", .array [.object [("id", .string client), ("key", .object [("env", .string "KEY")])]]),
    ("providers", .array [.object [
      ("credential", .object [
        ("secret", .object [("env", .string "KEY")]), ("type", .string "bearer")]),
      ("endpoint", .string "https://p"), ("id", .string "p"), ("kind", .string "openai_chat")]]),
    ("routes", .array [.object [
      ("id", .string "r"), ("models", .array [.string "*"]),
      ("targets", .array [.object [("model", .string "m"), ("provider", .string "p")]])]])]

/-- Payloads differ in their client, and so does the YAML. -/
def officeDashboard : DashboardCrates :=
  { plainCrates with
    crates := officeCrates
    environment := officeEnvironment
    configFromValue := fun
      | .object (("clients", .array [.object (("id", .string client) :: _)]) :: _) =>
          .ok { officeConfig with clients := [{ id := client, key := .env "KEY" }] }
      | _ => .error "missing field `clients`"
    configToYaml := fun config =>
      .ok ("clients:\n" ++ String.join (config.clients.map fun client => s!"- id: {client.id}\n")) }

/-- The database as the process leaves it, with the sample as version 1. -/
def officeDatabase : Database :=
  ((createSampleConfig officeDashboard).alone Database.serve undisturbed
    (Database.migrated undisturbed.now)).2

/-- One request after the other: a new configuration is stored, and the first comes back. -/
def orderlyMoves : List ConfigMove :=
  .start (.update (officePayload "a")) :: List.replicate 3 (.advance 0 undisturbed) ++
    .start (.revert 1) :: List.replicate 4 (.advance 0 undisturbed)

/-- The sample's calls come one after the other. -/
theorem history_linear_office : LinearHistory officeDashboard officeDatabase orderlyMoves :=
  history_linear officeDashboard officeDatabase (by decide +kernel) orderlyMoves (by decide +kernel)

/-- Both requests read the largest number before one of them inserts. -/
def raceMoves : List ConfigMove :=
  [.start (.update (officePayload "a")), .start (.update (officePayload "b")),
    .advance 0 undisturbed, .advance 1 undisturbed, .advance 0 undisturbed, .advance 1 undisturbed,
    .advance 0 undisturbed, .advance 0 undisturbed]

/-- The read of the largest number fails. -/
def unreadMoves : List ConfigMove :=
  [.start (.update (officePayload "a")),
    .advance 0 { undisturbed with fault := some (.io "disk I/O error") },
    .advance 0 undisturbed, .advance 0 undisturbed]

/-- Each time two rows get one number. -/
theorem history_forks :
    DistinctVersions officeDatabase.configVersions.rows ∧
      ¬ LinearHistory officeDashboard officeDatabase raceMoves ∧
      ¬ LinearHistory officeDashboard officeDatabase unreadMoves := by
  have raced : (ConfigPool.run officeDashboard officeDatabase raceMoves).rows.map (·.version) =
      [1, 2, 2] := by
    decide +kernel
  have unread : (ConfigPool.run officeDashboard officeDatabase unreadMoves).rows.map (·.version) =
      [1, 1] := by
    decide +kernel
  refine ⟨by decide +kernel, ?_, ?_⟩
  · intro linear
    have distinct := linear.distinct
    rw [DistinctVersions, raced] at distinct
    exact absurd distinct (by decide)
  · intro linear
    have distinct := linear.distinct
    rw [DistinctVersions, unread] at distinct
    exact absurd distinct (by decide)

end ClaudeProxy.Dashboard
