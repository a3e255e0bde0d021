import InstanceLifecycle.Config.Settings

/-!
# Starting from an environment

The program starts unless a variable without a default is missing or malformed, and then it ends
with a complaint about the first of them. The configurations it starts with are those within
their bounds, and each of them can be written as an environment that is read as it.
-/

namespace InstanceLifecycle

namespace Config

/-! ## Which environments start the program -/

/-- The variables without a default, in the order in which they are read. -/
def required : List String :=
  ["CMDB_URL", "CMDB_USERNAME", "CMDB_PASSWORD", "AMQP_HOST", "AMQP_PORT", "AMQP_USERNAME",
    "AMQP_PASSWORD", "AMQP_VHOST", "AMQP_QUEUE"]

section Required

variable (repr : String → String) (environ : Environ)

/-- What is wrong with a variable that has no default. -/
def complaint (name : String) : Option String :=
  match environ name with
  | none => some (name ++ " is required but is not set")
  | some raw =>
      if name = "AMQP_PORT" then
        match readInt raw with
        | none => some (name ++ "=" ++ repr raw ++ " is not an integer")
        | some value =>
            if value < 1 then
              some (name ++ "=" ++ toString value ++ " is below the minimum of " ++
                toString (1 : Int))
            else none
      else none

/-- Reading ends with the first complaint about these variables. -/
def Reads {α : Type} (names : List String) (reading : Except String α) : Prop :=
  ∀ text, reading = .error text ↔ names.findSome? (complaint repr environ) = some text

variable {repr environ} {α β : Type}

/-- A required variable is complained about before those that follow it: if its
reading fails, that is the first complaint, and otherwise the first complaint is
one of the rest. -/
theorem Reads.next {name : String} {names : List String} {first : Except String α}
    {rest : α → Except String β}
    (reads : ∀ text, first = .error text ↔ complaint repr environ name = some text)
    (later : ∀ value, Reads repr environ names (rest value)) :
    Reads repr environ (name :: names) (first >>= rest) := by
  intro text
  rw [List.findSome?_cons]
  cases first with
  | error said =>
    rw [(reads said).mp rfl]
    constructor
    · rintro ⟨⟩
      rfl
    · rintro ⟨⟩
      rfl
  | ok value =>
    have quiet : complaint repr environ name = none := by
      rw [Option.eq_none_iff_forall_ne_some]
      intro said complained
      cases (reads said).mpr complained
    rw [quiet]
    exact later value text

/-- A variable that has a default is never complained about. -/
theorem Reads.optional {names : List String} {first : Except String α}
    {rest : α → Except String β} (fine : ∃ value, first = .ok value)
    (later : ∀ value, Reads repr environ names (rest value)) :
    Reads repr environ names (first >>= rest) := by
  obtain ⟨value, rfl⟩ := fine
  exact later value

/-- A text without default is complained about when it is missing. -/
theorem envStr_required {name : String} (text : String) (other : name ≠ "AMQP_PORT") :
    envStr environ name = .error text ↔ complaint repr environ name = some text := by
  rw [envStr, getenv, complaint, Option.or_none]
  cases environ name with
  | none => simp
  | some raw => simp [other]

/-- With a default it is always read. -/
theorem envStr_optional (environ : Environ) (name value : String) :
    ∃ read, envStr environ name (some value) = .ok read := by
  rw [envStr, getenv]
  cases environ name with
  | none => exact ⟨value, rfl⟩
  | some raw => exact ⟨raw, rfl⟩

/-- The port is complained about when it is missing, no integer, or too small. -/
theorem envInt_required (text : String) :
    envInt repr environ "AMQP_PORT" none 1 = .error text ↔
      complaint repr environ "AMQP_PORT" = some text := by
  rw [envInt, complaint]
  cases environ "AMQP_PORT" with
  | none => simp [fallBack]
  | some raw =>
    simp only [if_pos]
    cases readInt raw with
    | none => simp [fallBack]
    | some value =>
      by_cases below : value < 1
      · simp [below, fallBack]
      · simp [below]

/-- A default is not checked against the minimum; what is read from the variable
is. -/
theorem envInt_optional (repr : String → String) (environ : Environ) (name : String)
    (value minimum : Int) : ∃ read, envInt repr environ name (some value) minimum = .ok read ∧
      (read = value ∨
        minimum ≤ read ∧ ∃ raw, environ name = some raw ∧ readInt raw = some read) := by
  rw [envInt]
  cases environ name with
  | none => exact ⟨value, rfl, Or.inl rfl⟩
  | some raw =>
    simp only
    cases given : readInt raw with
    | none => exact ⟨value, rfl, Or.inl rfl⟩
    | some number =>
      by_cases below : number < minimum
      · simp only [if_pos below]
        exact ⟨value, rfl, Or.inl rfl⟩
      · simp only [if_neg below]
        exact ⟨number, rfl, Or.inr ⟨Int.not_lt.mp below, raw, rfl, given⟩⟩

/-- By the order in which `from_env` reads its variables, required and optional
ones mixed. -/
theorem fromEnv_reads (repr : String → String) (environ : Environ) :
    Reads repr environ required (fromEnv repr environ) := by
  have named : ∀ {name : String}, name ≠ "AMQP_PORT" → ∀ text,
      envStr environ name = .error text ↔ complaint repr environ name = some text :=
    fun other text => envStr_required text other
  have given : ∀ name value minimum, ∃ read,
      envInt repr environ name (some value) minimum = .ok read := by
    intro name value minimum
    obtain ⟨read, done, -⟩ := envInt_optional repr environ name value minimum
    exact ⟨read, done⟩
  unfold fromEnv required
  refine .next (named (by decide)) fun cmdbUrl => ?_
  refine .next (named (by decide)) fun cmdbUsername => ?_
  refine .next (named (by decide)) fun cmdbPassword => ?_
  refine .next (named (by decide)) fun amqpHost => ?_
  refine .next envInt_required fun amqpPort => ?_
  refine .next (named (by decide)) fun amqpUsername => ?_
  refine .next (named (by decide)) fun amqpPassword => ?_
  refine .next (named (by decide)) fun amqpVhost => ?_
  refine .next (named (by decide)) fun amqpQueue => ?_
  refine .optional (given _ _ _) fun amqpPrefetchCount => ?_
  refine .optional (given _ _ _) fun maxMessageProcessRetries => ?_
  refine .optional (given _ _ _) fun minMessageProcessRetryDelay => ?_
  refine .optional (envStr_optional environ _ _) fun sentryDsn => ?_
  refine .optional (envStr_optional environ _ _) fun k8sPodName => ?_
  refine .optional (envStr_optional environ _ _) fun k8sNamespace => ?_
  refine .optional (envStr_optional environ _ _) fun k8sNodeName => ?_
  refine .optional (given _ _ _) fun cmdbTransportAttempts => ?_
  refine .optional (envStr_optional environ _ _) fun sentryEnv => ?_
  refine .optional (envStr_optional environ _ _) fun logLevel => ?_
  intro text
  constructor
  · rintro ⟨⟩
  · rintro ⟨⟩

end Required

/-- Nothing is wrong with a variable that is set, the port to an integer from 1 on. -/
theorem complaint_none (repr : String → String) (environ : Environ) (name : String) :
    complaint repr environ name = none ↔ ∃ raw, environ name = some raw ∧
      (name = "AMQP_PORT" → ∃ literal : IntLiteral,
        literal.text = raw.toList ∧ 1 ≤ literal.value) := by
  rw [complaint]
  cases environ name with
  | none => simp
  | some raw =>
    by_cases port : name = "AMQP_PORT"
    · simp only [if_pos port]
      constructor
      · intro quiet
        cases given : readInt raw with
        | none => simp [given] at quiet
        | some value =>
          obtain ⟨literal, written, rfl⟩ := (readInt_iff raw value).mp given
          have least : ¬ literal.value < 1 := by
            intro below
            simp [given, below] at quiet
          exact ⟨raw, rfl, fun _ => ⟨literal, written, Int.not_lt.mp least⟩⟩
      · rintro ⟨_, ⟨⟩, integer⟩
        obtain ⟨literal, written, least⟩ := integer port
        rw [(readInt_iff raw literal.value).mpr ⟨literal, written, rfl⟩]
        simp [Int.not_lt.mpr least]
    · simp [port]

/-- The program starts exactly if every variable without a default is set and the port is an
integer from 1 on, and otherwise ends with the complaint about the first one of which this fails. -/
theorem starts_iff (repr : String → String) (environ : Environ) :
    (∀ text, fromEnv repr environ = .error text ↔
      required.findSome? (complaint repr environ) = some text) ∧
    ((∃ config, fromEnv repr environ = .ok config) ↔
      ∀ name ∈ required, ∃ raw, environ name = some raw ∧
        (name = "AMQP_PORT" → ∃ literal : IntLiteral,
          literal.text = raw.toList ∧ 1 ≤ literal.value)) := by
  have reads := fromEnv_reads repr environ
  have started : (∃ config, fromEnv repr environ = .ok config) ↔
      required.findSome? (complaint repr environ) = none := by
    cases result : fromEnv repr environ with
    | error text => simp [(reads text).mp result]
    | ok config =>
      have quiet : required.findSome? (complaint repr environ) = none := by
        rw [Option.eq_none_iff_forall_ne_some]
        intro text complained
        have failed := (reads text).mpr complained
        rw [result] at failed
        cases failed
      simp [quiet]
  refine ⟨reads, started.trans ?_⟩
  rw [List.findSome?_eq_none_iff]
  exact forall₂_congr fun name _ => complaint_none repr environ name

/-- The variables without a default, and nothing else. -/
def smallEnviron (port : String) : Environ := fun name =>
  [("CMDB_URL", "http://cmdb"), ("CMDB_USERNAME", "importer"), ("CMDB_PASSWORD", "secret"),
    ("AMQP_HOST", "broker"), ("AMQP_PORT", port), ("AMQP_USERNAME", "importer"),
    ("AMQP_PASSWORD", "secret"), ("AMQP_VHOST", "/"), ("AMQP_QUEUE", "instances")].lookup name

/-- The configuration that it gives. -/
def smallConfig (port : Int) : Config where
  cmdbUrl := "http://cmdb"
  cmdbUsername := "importer"
  cmdbPassword := "secret"
  amqpHost := "broker"
  amqpPort := port
  amqpUsername := "importer"
  amqpPassword := "secret"
  amqpVhost := "/"
  amqpQueue := "instances"
  sentryDsn := ""
  k8sPodName := ""
  k8sNamespace := ""
  k8sNodeName := ""
  amqpSsl := Default.amqpSsl
  maxMessageProcessRetries := Default.maxMessageProcessRetries
  minMessageProcessRetryDelay := Default.minMessageProcessRetryDelay
  amqpPrefetchCount := Default.amqpPrefetchCount
  cmdbTransportAttempts := Default.cmdbTransportAttempts
  sentryEnv := Default.sentryEnv
  logLevel := Default.logLevel

example : fromEnv id (smallEnviron " 5_671") = .ok (smallConfig 5671) := by rfl

example : fromEnv id (smallEnviron "0") =
    .error "AMQP_PORT=0 is below the minimum of 1" := by rfl

/-! ## Which configurations it starts with -/

/-- An integer that the interpreter prints and reads. -/
def Printable (value : Int) : Prop := value.natAbs < 10 ^ maxStrDigits

/-- Small integers are. -/
theorem printable_small {value : Int} (few : value.natAbs < 10 ^ 4) : Printable value :=
  Nat.lt_of_lt_of_le few (Nat.pow_le_pow_right (by decide) (by decide))

/-- The bounds of the settings. A valid configuration is one that some
environment gives. -/
structure Valid (config : Config) : Prop where
  port : 1 ≤ config.amqpPort
  prefetch : 1 ≤ config.amqpPrefetchCount
  retries : 1 ≤ config.maxMessageProcessRetries
  delay : 0 ≤ config.minMessageProcessRetryDelay
  attempts : 1 ≤ config.cmdbTransportAttempts
  printable : ∀ value ∈ [config.amqpPort, config.amqpPrefetchCount,
    config.maxMessageProcessRetries, config.minMessageProcessRetryDelay,
    config.cmdbTransportAttempts], Printable value

/-- The configuration written into variables. -/
def environ (config : Config) : Environ := fun name =>
  [("CMDB_URL", config.cmdbUrl), ("CMDB_USERNAME", config.cmdbUsername),
    ("CMDB_PASSWORD", config.cmdbPassword), ("AMQP_HOST", config.amqpHost),
    ("AMQP_PORT", toString config.amqpPort), ("AMQP_SSL", boolText config.amqpSsl),
    ("AMQP_USERNAME", config.amqpUsername), ("AMQP_PASSWORD", config.amqpPassword),
    ("AMQP_VHOST", config.amqpVhost), ("AMQP_QUEUE", config.amqpQueue),
    ("AMQP_PREFETCH_COUNT", toString config.amqpPrefetchCount),
    ("MAX_MESSAGE_PROCESS_RETRIES", toString config.maxMessageProcessRetries),
    ("MIN_MESSAGE_PROCESS_RETRY_DELAY", toString config.minMessageProcessRetryDelay),
    ("SENTRY_DSN", config.sentryDsn), ("K8S_POD_NAME", config.k8sPodName),
    ("K8S_NAMESPACE", config.k8sNamespace), ("K8S_NODE_NAME", config.k8sNodeName),
    ("CMDB_TRANSPORT_ATTEMPTS", toString config.cmdbTransportAttempts),
    ("SENTRY_ENV", config.sentryEnv), ("LOG_LEVEL", config.logLevel)].lookup name

/-- A Boolean is read back from its text. -/
theorem strToBool_boolText (value : Bool) : strToBool (boolText value) = value := by
  cases value with
  | false => decide
  | true => decide

/-- An integer that meets its minimum is read back from its text. -/
theorem envInt_set {repr : String → String} {environ : Environ} {name : String} {value : Int}
    {default : Option Int} {minimum : Int} (stored : environ name = some (toString value))
    (least : minimum ≤ value) (printable : Printable value) :
    envInt repr environ name default minimum = .ok value := by
  rw [envInt, stored]
  simp only [readInt_toString value printable, if_neg (Int.not_lt.mpr least)]

/-- A valid configuration is read back from its variables, one after the other. -/
theorem fromEnv_environ (repr : String → String) (config : Config) (valid : config.Valid) :
    fromEnv repr config.environ = .ok config := by
  obtain ⟨port, prefetch, retries, delay, attempts, printable⟩ := valid
  simp only [List.forall_mem_cons, List.not_mem_nil, false_implies, implies_true,
    and_true] at printable
  obtain ⟨printedPort, printedPrefetch, printedRetries, printedDelay, printedAttempts⟩ := printable
  have ssl : strToBool ((config.environ "AMQP_SSL").getD (boolText Default.amqpSsl)) =
      config.amqpSsl := strToBool_boolText config.amqpSsl
  have port := @envInt_set repr config.environ "AMQP_PORT" _ none 1 rfl port printedPort
  have prefetch := @envInt_set repr config.environ "AMQP_PREFETCH_COUNT" _
    (some Default.amqpPrefetchCount) 1 rfl prefetch printedPrefetch
  have retries := @envInt_set repr config.environ "MAX_MESSAGE_PROCESS_RETRIES" _
    (some Default.maxMessageProcessRetries) 1 rfl retries printedRetries
  have delay := @envInt_set repr config.environ "MIN_MESSAGE_PROCESS_RETRY_DELAY" _
    (some Default.minMessageProcessRetryDelay) 0 rfl delay printedDelay
  have attempts := @envInt_set repr config.environ "CMDB_TRANSPORT_ATTEMPTS" _
    (some Default.cmdbTransportAttempts) 1 rfl attempts printedAttempts
  rw [fromEnv, port, prefetch, retries, delay, attempts, ssl]
  rfl

/-- An integer that was read is within its bound and can be printed, if its default is. -/
theorem envInt_returned {repr : String → String} {environ : Environ} {name : String}
    {default : Option Int} {minimum value : Int}
    (returned : envInt repr environ name default minimum = .ok value)
    (fallsBack : ∀ number, default = some number → minimum ≤ number ∧ Printable number) :
    minimum ≤ value ∧ Printable value := by
  have defaulted : ∀ said, fallBack default said = .ok value →
      minimum ≤ value ∧ Printable value := by
    intro said fallen
    cases default with
    | none => cases fallen
    | some number =>
      obtain rfl := Except.ok.inj fallen
      exact fallsBack number rfl
  rw [envInt] at returned
  split at returned
  · exact defaulted _ returned
  · split at returned
    · exact defaulted _ returned
    · rename_i raw _ number given
      split at returned
      · exact defaulted _ returned
      · rename_i least
        obtain rfl := Except.ok.inj returned
        exact ⟨Int.not_lt.mp least, readInt_natAbs given⟩

/-- A reading that returns has read its first variable. -/
theorem read_returned {α β : Type} {first : Except String α} {rest : α → Except String β}
    {result : β} (returned : first >>= rest = .ok result) :
    ∃ value, first = .ok value ∧ rest value = .ok result := by
  cases first with
  | error said => cases returned
  | ok value => exact ⟨value, rfl, returned⟩

/-- Every configuration that is read is valid. The integers are checked or
defaults, and these meet the bounds. -/
theorem fromEnv_valid {repr : String → String} {environ : Environ} {config : Config}
    (returned : fromEnv repr environ = .ok config) : config.Valid := by
  obtain ⟨cmdbUrl, -, returned⟩ := read_returned returned
  obtain ⟨cmdbUsername, -, returned⟩ := read_returned returned
  obtain ⟨cmdbPassword, -, returned⟩ := read_returned returned
  obtain ⟨amqpHost, -, returned⟩ := read_returned returned
  obtain ⟨amqpPort, port, returned⟩ := read_returned returned
  obtain ⟨amqpUsername, -, returned⟩ := read_returned returned
  obtain ⟨amqpPassword, -, returned⟩ := read_returned returned
  obtain ⟨amqpVhost, -, returned⟩ := read_returned returned
  obtain ⟨amqpQueue, -, returned⟩ := read_returned returned
  obtain ⟨amqpPrefetchCount, prefetch, returned⟩ := read_returned returned
  obtain ⟨maxMessageProcessRetries, retries, returned⟩ := read_returned returned
  obtain ⟨minMessageProcessRetryDelay, delay, returned⟩ := read_returned returned
  obtain ⟨sentryDsn, -, returned⟩ := read_returned returned
  obtain ⟨k8sPodName, -, returned⟩ := read_returned returned
  obtain ⟨k8sNamespace, -, returned⟩ := read_returned returned
  obtain ⟨k8sNodeName, -, returned⟩ := read_returned returned
  obtain ⟨cmdbTransportAttempts, attempts, returned⟩ := read_returned returned
  obtain ⟨sentryEnv, -, returned⟩ := read_returned returned
  obtain ⟨logLevel, -, returned⟩ := read_returned returned
  obtain rfl := Except.ok.inj returned
  have port := envInt_returned port fun number default => by cases default
  have prefetch := envInt_returned prefetch fun number default => by
    obtain rfl := Option.some.inj default
    exact ⟨by decide, printable_small (by decide)⟩
  have retries := envInt_returned retries fun number default => by
    obtain rfl := Option.some.inj default
    exact ⟨by decide, printable_small (by decide)⟩
  have delay := envInt_returned delay fun number default => by
    obtain rfl := Option.some.inj default
    exact ⟨by decide, printable_small (by decide)⟩
  have attempts := envInt_returned attempts fun number default => by
    obtain rfl := Option.some.inj default
    exact ⟨by decide, printable_small (by decide)⟩
  refine ⟨port.1, prefetch.1, retries.1, delay.1, attempts.1, ?_⟩
  simp only [List.forall_mem_cons, List.not_mem_nil, false_implies, implies_true, and_true]
  exact ⟨port.2, prefetch.2, retries.2, delay.2, attempts.2⟩

/-- The program starts with a configuration from some environment exactly if it is within its
bounds, and then it starts with it from the variables that it is written into. -/
theorem configurations_read_back (repr : String → String) (config : Config) :
    (config.Valid ↔ ∃ environ, fromEnv repr environ = .ok config) ∧
      (config.Valid ↔ fromEnv repr config.environ = .ok config) := by
  refine ⟨⟨fun valid => ⟨_, fromEnv_environ repr config valid⟩, ?_⟩,
    fromEnv_environ repr config, fromEnv_valid⟩
  rintro ⟨environ, returned⟩
  exact fromEnv_valid returned

end Config

end InstanceLifecycle
