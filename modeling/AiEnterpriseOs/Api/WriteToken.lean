import AiEnterpriseOs.Library.Runs
import AiEnterpriseOs.Library.TextLines
import Mathlib.Tactic.SplitIfs

/-!
# The write token

The service keeps its token in memory and in a file. Under `hash_at_rest` the
file holds a digest, and `create` keeps the token itself in memory, which
`verify` then compares with a digest.
-/

namespace AiEnterpriseOs.Api

open Library

def isAscii (char : Char) : Bool :=
  char.toNat < 128

def urlSafe (char : Char) : Bool :=
  char.isAlphanum || char = '-' || char = '_'

/-- A value of `secrets.token_urlsafe(32)`. -/
structure UrlSafeToken where
  text : List Char
  size : text.length = 43
  safe : text.all urlSafe = true

/-- A value of `hexdigest` for SHA-256. -/
structure HexDigest where
  text : List Char
  size : text.length = 64
  hex : (text.all fun char => char.isDigit || ('a' ≤ char && char ≤ 'f')) = true

/-- `hmac.compare_digest` of two strings. -/
def compareDigest (first second : List Char) : Except String Bool :=
  if first.all isAscii && second.all isAscii then .ok (first = second)
  else .error "comparing strings with non-ASCII characters is not supported"

def tokenEnvVar : String := "AI_ENTERPRISE_WRITE_TOKEN"

structure WriteTokenService where
  hashAtRest : Bool
  envToken : Option (List Char)
  stored : Option (List Char)
  createdAt : Option Int

namespace WriteTokenService

def managedByEnv (service : WriteTokenService) : Bool :=
  service.envToken.isSome

variable (sha256 : List Char → HexDigest)

/-- What `_write_token` leaves in the file. -/
def writeToken (service : WriteTokenService) (token : List Char) : List Char :=
  (if service.hashAtRest then (sha256 token).text else token) ++ ['\n']

/-- The text of the file, the service and the returned value. -/
def create (service : WriteTokenService) (token : UrlSafeToken) (now : Int) :
    Except String (List Char × WriteTokenService × Option (List Char)) :=
  if service.managedByEnv then
    .error ("Token is managed by " ++ tokenEnvVar ++ "; create/rotate it through the environment")
  else
    .ok (service.writeToken sha256 token.text,
        { service with stored := some token.text, createdAt := some now },
        if service.stored.isNone then some token.text else none)

/-- The file and the service; a file that cannot be removed stays. -/
def revoke (service : WriteTokenService) (file : Option (List Char)) (unlinked : Bool) :
    Except String (Option (List Char) × WriteTokenService) :=
  if service.managedByEnv then
    .error ("Token is managed by " ++ tokenEnvVar ++ "; revoke it through the environment")
  else
    .ok (if unlinked then none else file, { service with stored := none, createdAt := none })

def verify (service : WriteTokenService) (token : Option (List Char)) : Except String Bool :=
  match token with
  | none | some [] => .ok false
  | some token =>
    match service.envToken, service.stored with
    | some expected, _ => compareDigest token expected
    | none, none => .ok false
    | none, some expected =>
      if service.hashAtRest then compareDigest (sha256 token).text expected
      else compareDigest token expected

/-- `__init__` with `_load`; `file` is what `read_text` returns, `none` where it
raises, and `modified` is the time taken from the file. -/
def load (hashAtRest : Bool) (envToken file : Option (List Char)) (modified : Int) :
    WriteTokenService :=
  let content := if envToken.isSome then [] else TextLines.strip (file.getD [])
  if content = [] then
    { hashAtRest := hashAtRest, envToken := envToken, stored := none, createdAt := none }
  else
    { hashAtRest := hashAtRest
      envToken := envToken
      stored := some content
      createdAt := some modified }

end WriteTokenService

/-- A service, the file on disk and the latest created token that has not been
revoked. -/
structure TokenWorld where
  file : Option (List Char)
  service : WriteTokenService
  latest : Option (List Char)

inductive TokenOperation where
  | create (token : UrlSafeToken) (now : Int)
  | revoke (unlinked : Bool)
  | restart (readable : Bool) (modified : Int)

namespace TokenWorld

/-- A service without an environment token that has found no file. -/
def fresh (hashAtRest : Bool) : TokenWorld :=
  { file := none
    service := WriteTokenService.load hashAtRest none none 0
    latest := none }

def reload (world : TokenWorld) (readable : Bool) (modified : Int) : WriteTokenService :=
  WriteTokenService.load world.service.hashAtRest world.service.envToken
    (if readable then world.file else none) modified

variable (sha256 : List Char → HexDigest)

def step (world : TokenWorld) : TokenOperation → TokenWorld
  | .create token now =>
    match world.service.create sha256 token now with
    | .error _ => world
    | .ok (file, service, _) =>
      { file := some file, service := service, latest := some token.text }
  | .revoke unlinked =>
    match world.service.revoke world.file unlinked with
    | .error _ => world
    | .ok (file, service) => { file := file, service := service, latest := none }
  | .restart readable modified => { world with service := world.reload readable modified }

/-- The service accepts the latest token and no other, and so does a service
that is loaded from the file. -/
structure Lawful (world : TokenWorld) : Prop where
  accepts : ∀ token, world.service.verify sha256 token = .ok true ↔
    token.isSome = true ∧ world.latest = token
  reloaded : ∀ token modified, (world.reload true modified).verify sha256 token =
    world.service.verify sha256 token

/-- No token is created under `hash_at_rest`, and no file outlives its removal
or is there without being read. -/
def Permitted (world : TokenWorld) : TokenOperation → Prop
  | .create _ _ => world.service.hashAtRest = false
  | .revoke unlinked => unlinked = true ∨ world.file = none
  | .restart readable _ => readable = true ∨ world.file = none

/-- The token is in memory and in the file as it is, or nowhere. -/
inductive Settled (world : TokenWorld) : Prop where
  | holding (token : UrlSafeToken) (plain : world.service.hashAtRest = false)
      (noEnv : world.service.envToken = none)
      (file : world.file = some (token.text ++ ['\n']))
      (stored : world.service.stored = some token.text)
      (latest : world.latest = some token.text)
  | empty (noEnv : world.service.envToken = none) (file : world.file = none)
      (stored : world.service.stored = none)
      (latest : world.latest = none)

end TokenWorld

section Texts

theorem is_upper_eq (char : Char) :
    char.isUpper = decide ('A'.val ≤ char.val ∧ char.val ≤ 'Z'.val) := rfl

theorem is_lower_eq (char : Char) :
    char.isLower = (decide ('a'.val ≤ char.val) && decide (char.val ≤ 'z'.val)) := rfl

theorem is_alpha_eq (char : Char) : char.isAlpha = (char.isUpper || char.isLower) := rfl

theorem url_safe_range {char : Char} (safe : urlSafe char = true) :
    isAscii char = true ∧ TextLines.isSpace char = false := by
  have range : 0x2D ≤ char.toNat ∧ char.toNat < 0x80 := by
    simp only [urlSafe, Char.isAlphanum, is_alpha_eq, is_upper_eq, is_lower_eq, Char.isDigit,
      Bool.or_eq_true, Bool.and_eq_true, decide_eq_true_eq, ge_iff_le, UInt32.le_iff_toNat_le]
      at safe
    rcases safe with (((⟨low, high⟩ | ⟨low, high⟩) | ⟨low, high⟩) | rfl) | rfl
    · exact ⟨le_trans (by decide) low, lt_of_le_of_lt high (by decide)⟩
    · exact ⟨le_trans (by decide) low, lt_of_le_of_lt high (by decide)⟩
    · exact ⟨le_trans (by decide) low, lt_of_le_of_lt high (by decide)⟩
    · decide
    · decide
  constructor
  · simp only [isAscii, decide_eq_true_eq]
    omega
  · simp only [TextLines.isSpace]
    simp
    omega

theorem UrlSafeToken.nonempty (token : UrlSafeToken) : token.text ≠ [] := by
  intro empty
  have size := token.size
  rw [empty] at size
  cases size

theorem HexDigest.safe (digest : HexDigest) : digest.text.all urlSafe = true := by
  rw [List.all_eq_true]
  intro char member
  have hex := List.all_eq_true.mp digest.hex char member
  simp only [Bool.or_eq_true, Bool.and_eq_true, decide_eq_true_eq, Char.le_def] at hex
  simp only [urlSafe, Char.isAlphanum, is_alpha_eq, is_lower_eq, Bool.or_eq_true,
    Bool.and_eq_true, decide_eq_true_eq]
  rcases hex with digit | ⟨low, high⟩
  · exact .inl (.inl (.inr digit))
  · exact .inl (.inl (.inl (.inr ⟨low, UInt32.le_trans high (by decide)⟩)))

theorem HexDigest.nonempty (digest : HexDigest) : digest.text ≠ [] := by
  intro empty
  have size := digest.size
  rw [empty] at size
  cases size

theorem ascii_of_safe {text : List Char} (safe : text.all urlSafe = true) :
    text.all isAscii = true := by
  rw [List.all_eq_true]
  intro char member
  exact (url_safe_range (List.all_eq_true.mp safe char member)).1

theorem strip_line {text : List Char} (safe : text.all urlSafe = true) :
    TextLines.strip (text ++ ['\n']) = text := by
  have newline : TextLines.Blank ['\n'] := by
    intro char member
    rw [List.mem_singleton.mp member]
    rfl
  rw [TextLines.strip_append_blank newline]
  apply TextLines.strip_of_no_space
  intro char member
  exact (url_safe_range (List.all_eq_true.mp safe char member)).2

theorem compare_digest_ascii {first second : List Char} (left : first.all isAscii = true)
    (right : second.all isAscii = true) :
    compareDigest first second = .ok (first = second) := by
  rw [compareDigest, left, right]
  rfl

theorem compare_digest_true_iff (first second : List Char) : compareDigest first second = .ok true ↔
      first = second ∧ second.all isAscii = true := by
  rw [compareDigest]
  split
  · next ascii =>
      rw [Bool.and_eq_true] at ascii
      simp [ascii.2]
  · next other =>
      refine iff_of_false nofun ?_
      rintro ⟨rfl, ascii⟩
      rw [ascii] at other
      exact other rfl

end Texts

namespace WriteTokenService

variable (sha256 : List Char → HexDigest)

theorem verify_empty {service : WriteTokenService} (noEnv : service.envToken = none)
    (stored : service.stored = none) (token : Option (List Char)) :
    service.verify sha256 token = .ok false := by
  unfold verify
  rw [noEnv, stored]
  split <;> rfl

theorem verify_plain_iff {service : WriteTokenService} {created : UrlSafeToken}
    (plain : service.hashAtRest = false) (noEnv : service.envToken = none)
    (stored : service.stored = some created.text) (token : Option (List Char)) :
    service.verify sha256 token = .ok true ↔ token.isSome = true ∧ some created.text = token := by
  unfold verify
  rw [noEnv, stored]
  split
  · exact iff_of_false nofun nofun
  · refine iff_of_false nofun ?_
    rintro ⟨_, same⟩
    exact created.nonempty (Option.some.inj same)
  · next text _ =>
      simp only [plain, Bool.false_eq_true, if_false, Option.isSome_some, true_and]
      rw [compare_digest_true_iff]
      constructor
      · rintro ⟨same, _⟩
        rw [same]
      · intro same
        exact ⟨(Option.some.inj same).symm, ascii_of_safe created.safe⟩

/-- A digest is never the token that is kept in memory. -/
theorem verify_hashed {service : WriteTokenService} (created : UrlSafeToken)
    (hashed : service.hashAtRest = true) (noEnv : service.envToken = none)
    (stored : service.stored = some created.text) (token : Option (List Char)) :
    service.verify sha256 token = .ok false := by
  unfold verify
  rw [noEnv, stored]
  split
  · rfl
  · rfl
  · next text _ =>
      have differs : (sha256 text).text ≠ created.text := by
        intro same
        have lengths := congrArg List.length same
        rw [(sha256 text).size, created.size] at lengths
        cases lengths
      simp only [hashed, if_true]
      rw [compare_digest_ascii (ascii_of_safe (sha256 text).safe) (ascii_of_safe created.safe)]
      simp only [differs, decide_false]

theorem verify_congr {first second : WriteTokenService}
    (mode : first.hashAtRest = second.hashAtRest) (env : first.envToken = second.envToken)
    (stored : first.stored = second.stored) (token : Option (List Char)) :
    first.verify sha256 token = second.verify sha256 token := by
  unfold verify
  rw [mode, env, stored]

theorem load_hash_at_rest (hashAtRest : Bool) (envToken file : Option (List Char))
    (modified : Int) : (load hashAtRest envToken file modified).hashAtRest = hashAtRest := by
  unfold load
  extract_lets content
  split <;> rfl

theorem load_env_token (hashAtRest : Bool) (envToken file : Option (List Char))
    (modified : Int) : (load hashAtRest envToken file modified).envToken = envToken := by
  unfold load
  extract_lets content
  split <;> rfl

theorem load_no_file (hashAtRest : Bool) (modified : Int) :
    (load hashAtRest none none modified).stored = none := rfl

theorem load_line (hashAtRest : Bool) {text : List Char} (nonempty : text ≠ [])
    (safe : text.all urlSafe = true) (modified : Int) :
    (load hashAtRest none (some (text ++ ['\n'])) modified).stored = some text := by
  have content : TextLines.strip ((some (text ++ ['\n'])).getD []) = text := strip_line safe
  unfold load
  simp only [Option.isSome_none, Bool.false_eq_true, if_false, content, nonempty]

end WriteTokenService

namespace TokenWorld

variable (sha256 : List Char → HexDigest)

theorem fresh_settled (hashAtRest : Bool) : Settled (fresh hashAtRest) :=
  .empty rfl rfl rfl rfl

theorem reload_stored {world : TokenWorld} (settled : Settled world) (modified : Int) :
    (world.reload true modified).stored = world.service.stored := by
  cases settled with
  | holding token plain noEnv file stored latest =>
    rw [reload, noEnv, file, stored]
    exact WriteTokenService.load_line _ token.nonempty token.safe modified
  | empty noEnv file stored latest =>
    rw [reload, noEnv, file, stored]
    exact WriteTokenService.load_no_file _ modified

theorem settled_lawful {world : TokenWorld} (settled : Settled world) : Lawful sha256 world where
  accepts token := by
    cases settled with
    | holding created plain noEnv file stored latest =>
      rw [latest]
      exact WriteTokenService.verify_plain_iff sha256 plain noEnv stored token
    | empty noEnv file stored latest =>
      rw [WriteTokenService.verify_empty sha256 noEnv stored, latest]
      refine iff_of_false nofun ?_
      rintro ⟨given, same⟩
      rw [← same] at given
      cases given
  reloaded token modified := by
    apply WriteTokenService.verify_congr
    · exact WriteTokenService.load_hash_at_rest _ _ _ _
    · exact WriteTokenService.load_env_token _ _ _ _
    · exact reload_stored settled modified

theorem settled_no_env {world : TokenWorld} (settled : Settled world) :
    world.service.envToken = none := by
  cases settled <;> assumption

theorem step_create {world : TokenWorld} (noEnv : world.service.envToken = none)
    (token : UrlSafeToken) (now : Int) :
    world.step sha256 (.create token now) =
      { file := some (world.service.writeToken sha256 token.text)
        service :=
          { hashAtRest := world.service.hashAtRest
            envToken := none
            stored := some token.text
            createdAt := some now }
        latest := some token.text } := by
  simp [step, WriteTokenService.create, WriteTokenService.managedByEnv, noEnv]

theorem step_revoke {world : TokenWorld} (noEnv : world.service.envToken = none) (unlinked : Bool) :
    world.step sha256 (.revoke unlinked) =
      { file := if unlinked then none else world.file
        service :=
          { hashAtRest := world.service.hashAtRest
            envToken := none
            stored := none
            createdAt := none }
        latest := none } := by
  simp [step, WriteTokenService.revoke, WriteTokenService.managedByEnv, noEnv]

theorem permitted_of_lawful {world : TokenWorld} (settled : Settled world)
    (operation : TokenOperation) (lawful : Lawful sha256 (world.step sha256 operation)) :
    Permitted world operation := by
  have noEnv := settled_no_env settled
  cases operation with
  | create token now =>
    rw [step_create sha256 noEnv] at lawful
    by_contra hashed
    have accepted := (lawful.accepts (some token.text)).mpr ⟨rfl, rfl⟩
    have hashing : world.service.hashAtRest = true := by simpa [Permitted] using hashed
    have refused := @WriteTokenService.verify_hashed sha256
      { hashAtRest := world.service.hashAtRest
        envToken := none
        stored := some token.text
        createdAt := some now } token hashing rfl rfl (some token.text)
    cases refused.symm.trans accepted
  | revoke unlinked =>
    cases settled with
    | empty _ file _ _ => exact .inr file
    | holding token plain _ file stored latest =>
      rw [step_revoke sha256 noEnv] at lawful
      by_contra kept
      obtain ⟨stays, _⟩ := not_or.mp kept
      have same := lawful.reloaded (some token.text) 0
      have live : WriteTokenService.verify sha256
          { hashAtRest := false, envToken := none, stored := none, createdAt := none }
          (some token.text) = .ok false :=
        WriteTokenService.verify_empty sha256 rfl rfl _
      have again : WriteTokenService.verify sha256 (WriteTokenService.load false none
          (some (token.text ++ ['\n'])) 0) (some token.text) = .ok true :=
        (WriteTokenService.verify_plain_iff sha256 (WriteTokenService.load_hash_at_rest _ _ _ _)
          (WriteTokenService.load_env_token _ _ _ _)
          (WriteTokenService.load_line false token.nonempty token.safe 0) _).mpr ⟨rfl, rfl⟩
      simp only [reload, stays, if_true, Bool.false_eq_true, if_false, plain, file, live, again]
        at same
      cases same
  | restart readable modified =>
    cases settled with
    | empty _ file _ _ => exact .inr file
    | holding token plain _ file stored latest =>
      by_contra unread
      obtain ⟨unreadable, _⟩ := not_or.mp unread
      have accepted := (lawful.accepts (some token.text)).mpr ⟨rfl, latest⟩
      rw [step, reload, noEnv, if_neg unreadable, WriteTokenService.verify_empty sha256
        (WriteTokenService.load_env_token _ _ _ _)
        (WriteTokenService.load_no_file _ _)] at accepted
      cases accepted

theorem settled_of_permitted {world : TokenWorld} (settled : Settled world)
    (operation : TokenOperation) (permitted : Permitted world operation) :
    Settled (world.step sha256 operation) := by
  have noEnv := settled_no_env settled
  cases operation with
  | create token now =>
    have plain : world.service.hashAtRest = false := permitted
    rw [step_create sha256 noEnv]
    refine .holding token plain rfl ?_ rfl rfl
    simp [WriteTokenService.writeToken, plain]
  | revoke unlinked =>
    rw [step_revoke sha256 noEnv]
    refine .empty rfl ?_ rfl rfl
    rcases permitted with removed | absent
    · simp [removed]
    · simp [absent]
  | restart readable modified =>
    have kept : world.reload readable modified = world.reload true modified := by
      rcases permitted with read | absent
      · rw [read]
      · simp [reload, absent]
    have stored := reload_stored settled modified
    have mode : (world.reload true modified).hashAtRest = world.service.hashAtRest :=
      WriteTokenService.load_hash_at_rest _ _ _ _
    have env : (world.reload true modified).envToken = world.service.envToken :=
      WriteTokenService.load_env_token _ _ _ _
    rw [step, kept]
    cases settled with
    | holding token plain _ file wasStored latest =>
      exact .holding token (mode.trans plain) (env.trans noEnv) file (stored.trans wasStored) latest
    | empty _ file wasStored latest =>
      exact .empty (env.trans noEnv) file (stored.trans wasStored) latest

/-- The law of the write token holds all along a run exactly when no token is
created under `hash_at_rest` and no file operation fails silently. -/
theorem write_token_law_iff (hashAtRest : Bool) (operations : List TokenOperation) :
    (∀ early late, operations = early ++ late →
        Lawful sha256 (runInputs (step sha256) (fresh hashAtRest) early)) ↔
      StepsMeet (step sha256) Permitted (fresh hashAtRest) operations := by
  have start := fresh_settled hashAtRest
  apply (@holds_throughout_iff _ _ (step sha256) (Lawful sha256)
    (fun world operation => Lawful sha256 (world.step sha256 operation))
    (fun _ _ _ => Iff.rfl) (fresh hashAtRest) operations (settled_lawful sha256 start)).trans
  have same : ∀ world operation, Settled world →
      (Lawful sha256 (world.step sha256 operation) ↔ Permitted world operation) := by
    intro world operation settled
    constructor
    · exact permitted_of_lawful sha256 settled operation
    · intro permitted
      exact settled_lawful sha256 (settled_of_permitted sha256 settled operation permitted)
  apply steps_meet_congr_of_meets (step sha256) Settled ?_ same _ _ start
  intro world operation settled lawful
  exact settled_of_permitted sha256 settled operation ((same world operation settled).mp lawful)

/-- The token just created under `hash_at_rest` is refused, and accepted after
a restart. -/
theorem hashed_token_needs_restart :
    let token : UrlSafeToken :=
      { text := List.replicate 43 'a', size := by decide, safe := by decide }
    -- the digest of the token, which is the only text that is hashed
    let digest : HexDigest :=
      { text := "66d34fba71f8f450f7e45598853e53bfc23bbd129027cbb131a2f4ffd7878cd0".toList
        size := by decide +kernel
        hex := by decide +kernel }
    let sha256 : List Char → HexDigest := fun _ => digest
    let created := runInputs (step sha256) (fresh true) [.create token 1]
    created.latest = some token.text ∧ created.service.verify sha256 (some token.text) = .ok false ∧
      (created.reload true 1).verify sha256 (some token.text) = .ok true := by
  intro token digest sha256 created
  refine ⟨rfl, WriteTokenService.verify_hashed sha256 token rfl rfl rfl _, ?_⟩
  have stored : (created.reload true 1).stored = some (sha256 token.text).text :=
    WriteTokenService.load_line true (sha256 token.text).nonempty (sha256 token.text).safe 1
  have env : (created.reload true 1).envToken = none :=
    WriteTokenService.load_env_token _ _ _ _
  have mode : (created.reload true 1).hashAtRest = true :=
    WriteTokenService.load_hash_at_rest _ _ _ _
  unfold WriteTokenService.verify
  rw [env, stored, mode]
  split
  · next absent => cases absent
  · next empty => exact absurd (Option.some.inj empty) token.nonempty
  · next text same =>
      rw [← Option.some.inj same]
      exact (compare_digest_true_iff _ _).mpr ⟨rfl, ascii_of_safe (sha256 token.text).safe⟩

end TokenWorld

end AiEnterpriseOs.Api
