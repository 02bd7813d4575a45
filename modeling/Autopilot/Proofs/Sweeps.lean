import Autopilot.Cli.Session
import Autopilot.Proofs.BaroFlights
import Autopilot.Proofs.GainSpacing
import Autopilot.Proofs.SweepSummary

/-!
# Sweeps

A sweep flies a script once for each of some gains.  Nothing is left of one flight for the next, and
no gain is ever objected to.  So every row is that of a single flight (`Script.Flies`), and a script
that is refused is refused at the first gain (`Script.sweep_cons_of_error`).

A session that sweeps writes after the last flight, and what it has written can be read back
(`FileTree.read_of_write`).  `Flags.Sweeps` says all of this of a session, and `Flags.run_sweeps`
that every session with a sweep is one of this kind.
-/

namespace Autopilot

/-! ### Files -/

namespace Cli.FileTree

variable {t t' : FileTree} {place other : Place} {entry : Entry}

theorem lookup_filter_ne (h : other ≠ place) (entries : List (Place × Entry)) :
    (entries.filter fun e => e.1 != place).lookup other = entries.lookup other := by
  induction entries with
  | nil => rfl
  | cons e entries ih =>
    obtain ⟨at', what⟩ := e
    by_cases hat : at' = place
    · rw [List.filter_cons_of_neg (by simp [hat]), ih, List.lookup_cons,
        beq_false_of_ne (hat ▸ h)]
    · rw [List.filter_cons_of_pos (by simp [hat]), List.lookup_cons, List.lookup_cons, ih]

theorem get_put_of_ne (h : other ≠ place) :
    entry? (t.put place entry) other = t.entry? other := by
  unfold entry? put
  rw [List.lookup_cons, beq_false_of_ne h, lookup_filter_ne h]

theorem get_put_self (h : place ≠ []) : entry? (t.put place entry) place = some entry := by
  unfold entry? put
  rw [List.lookup_cons_self, if_neg (by simpa using h)]

/-- A path never leads on through what is not a folder, so it leads to the same place after something
else has been put there. -/
theorem step_put {p q : Place} {part : String} (hplace : t.entry? place ≠ some .folder)
    (h : t.step p part = .ok q) : (t.put place entry).step p part = .ok q := by
  have hfolder : t.entry? p = some .folder := by
    unfold step at h
    split at h
    · cases h
    · cases h
    · assumption
  have hne : p ≠ place := by
    rintro rfl
    exact hplace hfolder
  unfold step at h ⊢
  rw [get_put_of_ne hne]
  exact h

theorem foldlM_step_put {parts : List String} {p q : Place}
    (hplace : t.entry? place ≠ some .folder) (h : parts.foldlM t.step p = .ok q) :
    parts.foldlM (t.put place entry).step p = .ok q := by
  induction parts generalizing p with
  | nil => exact h
  | cons part parts ih =>
    rw [List.foldlM_cons] at h ⊢
    obtain ⟨next, hstep, hrest⟩ := bind_eq_ok_iff.mp h
    rw [step_put hplace hstep]
    exact ih hrest

/-- A file that has been written has the text that was written. -/
theorem read_of_write {path text : String} (h : t.write path text = .ok t') :
    t'.read path = .ok text := by
  unfold write at h
  obtain ⟨parts, hparts, h⟩ := bind_eq_ok_iff.mp h
  obtain ⟨place, hfollow, h⟩ := bind_eq_ok_iff.mp h
  have hplace : t.entry? place ≠ some .folder := by
    intro hfolder
    rw [hfolder] at h
    cases h
  have htop : place ≠ [] := by
    rintro rfl
    exact hplace rfl
  have hput : t.put place (.file text) = t' := by
    split at h
    · cases h
    · exact Except.ok.inj h
  have hfollow' : t'.follow parts = .ok place := by
    rw [← hput]
    exact foldlM_step_put hplace hfollow
  unfold read
  rw [hparts, ok_bind, hfollow', ok_bind, ← hput, get_put_self htop]

end Cli.FileTree

/-! ### The flights of a sweep -/

namespace Script

variable {s : Script} {gain : UInt8} {gains rest : List UInt8} {row : SweepRow}

/-! Another gain is the proportional one of vertical speed, and all else stays as it is. -/

@[simp] theorem proportional_withClimbGain (s : Script) (gain : UInt8) :
    (s.withClimbGain gain).settings.gains.climb.proportional = gain := rfl

@[simp] theorem withClimbGain_withClimbGain (s : Script) (gain other : UInt8) :
    (s.withClimbGain gain).withClimbGain other = s.withClimbGain other := rfl

@[simp] theorem withClimbGain_self (s : Script) :
    s.withClimbGain s.settings.gains.climb.proportional = s := rfl

/-- So the scripts with other gains are those that differ in this gain alone. -/
theorem eq_withClimbGain_iff {t : Script} :
    t = s.withClimbGain gain ↔ t.settings.gains.climb.proportional = gain ∧
      t.withClimbGain s.settings.gains.climb.proportional = s := by
  constructor
  · rintro rfl
    exact ⟨proportional_withClimbGain s gain, by simp⟩
  · rintro ⟨rfl, hrest⟩
    rw [← hrest]
    simp

/-- A single flight of the script with this gain comes to its end, and the row has its accuracy. -/
def Flies (s : Script) (gain : UInt8) (row : SweepRow) : Prop :=
  ∃ log, ({ s with settings.gains.climb.proportional := gain } : Script).fly = .ok (.ok log) ∧
    row = ⟨gain, log.accuracy⟩

/-- A single flight of the script with this gain stops with a fault. -/
def Stops (s : Script) (gain : UInt8) (fault : Fault) : Prop :=
  ({ s with settings.gains.climb.proportional := gain } : Script).fly = .ok (.error fault)

theorem Flies.unique {row' : SweepRow} (h : s.Flies gain row) (h' : s.Flies gain row') :
    row = row' := by
  obtain ⟨log, hlog, rfl⟩ := h
  obtain ⟨log', hlog', rfl⟩ := h'
  obtain rfl : log = log' := by
    rw [hlog] at hlog'
    exact Except.ok.inj (Except.ok.inj hlog')
  rfl

/-- A script is refused with any gain for the same reason as with its own. -/
theorem fly_withClimbGain_eq_error_iff (s : Script) (gain : UInt8) (e : ScriptError) :
    (s.withClimbGain gain).fly = .error e ↔ s.fly = .error e := by
  have hswept := (s.withClimbGain gain).failsWith_fly e
  rw [objections_withClimbGain] at hswept
  exact hswept.trans (s.failsWith_fly e).symm

/-! One flight more at the front of a sweep. -/

theorem sweep_cons_of_error {e : ScriptError} (h : s.fly = .error e) :
    s.sweep (gain :: rest) = ⟨[], .refused gain e⟩ := by
  unfold sweep
  rw [(s.fly_withClimbGain_eq_error_iff gain e).mpr h]

theorem sweep_cons_of_stops {fault : Fault} (h : s.Stops gain fault) :
    s.sweep (gain :: rest) = ⟨[], .stopped fault⟩ := by
  change (s.withClimbGain gain).fly = _ at h
  unfold sweep
  rw [h]

theorem sweep_cons_of_flies (h : s.Flies gain row) :
    s.sweep (gain :: rest) = ⟨row :: (s.sweep rest).rows, (s.sweep rest).ending⟩ := by
  obtain ⟨log, hlog, rfl⟩ := h
  change (s.withClimbGain gain).fly = _ at hlog
  conv_lhs => unfold sweep
  rw [hlog]

/-- A script that is not refused flies to its end with a gain, or stops with a fault. -/
theorem flies_or_stops (h : ∀ e, s.fly ≠ .error e) (gain : UInt8) :
    (∃ row, s.Flies gain row) ∨ ∃ fault, s.Stops gain fault := by
  cases hfly : (s.withClimbGain gain).fly with
  | error e => exact absurd ((s.fly_withClimbGain_eq_error_iff gain e).mp hfly) (h e)
  | ok result =>
    cases result with
    | error fault => exact .inr ⟨fault, hfly⟩
    | ok log => exact .inl ⟨_, log, hfly, rfl⟩

/-- The sweep of a script that is not refused has a row for each gain, or stops with the fault of a
flight. -/
theorem sweep_complete_or_stopped (h : ∀ e, s.fly ≠ .error e) (gains : List UInt8) :
    (∃ rows, List.Forall₂ s.Flies gains rows ∧ s.sweep gains = ⟨rows, .complete⟩) ∨
      ∃ gain ∈ gains, ∃ fault, s.Stops gain fault ∧ (s.sweep gains).ending = .stopped fault := by
  induction gains with
  | nil => exact .inl ⟨[], .nil, rfl⟩
  | cons gain rest ih =>
    rcases flies_or_stops h gain with ⟨row, hrow⟩ | ⟨fault, hfault⟩
    · rw [sweep_cons_of_flies hrow]
      rcases ih with ⟨rows, hrows, hsweep⟩ | ⟨other, hother, fault, hfault, hsweep⟩
      · rw [hsweep]
        exact .inl ⟨row :: rows, .cons hrow hrows, rfl⟩
      · exact .inr ⟨other, List.mem_cons_of_mem _ hother, fault, hfault, hsweep⟩
    · rw [sweep_cons_of_stops hfault]
      exact .inr ⟨gain, List.mem_cons_self, fault, hfault, rfl⟩

theorem rel_getElem? {rows : List SweepRow} (h : List.Forall₂ s.Flies gains rows) (i : ℕ) :
    Option.Rel s.Flies gains[i]? rows[i]? := by
  induction h generalizing i with
  | nil => exact .none
  | cons hrow _ ih =>
    cases i with
    | zero => exact .some hrow
    | succ i => exact ih i

theorem eq_of_rel_flies {g : Option UInt8} {a b : Option SweepRow} (h : Option.Rel s.Flies g a)
    (h' : Option.Rel s.Flies g b) : a = b := by
  cases h with
  | none =>
    cases h'
    rfl
  | some hrow =>
    cases h' with
    | some hrow' => exact congrArg some (hrow.unique hrow')

/-- A gain that comes up twice has the same row each time. -/
theorem getElem?_rows_congr {rows : List SweepRow} (h : List.Forall₂ s.Flies gains rows) {i j : ℕ}
    (hij : gains[i]? = gains[j]?) : rows[i]? = rows[j]? := by
  have hi := rel_getElem? h i
  rw [hij] at hi
  exact eq_of_rel_flies hi (rel_getElem? h j)

end Script

/-! ### Sessions -/

namespace Cli

/-- What is said before a sweep. -/
def sweepAnnouncement (gains : List UInt8) : String :=
  "Sweeping velocity P over [" ++ ", ".intercalate (gains.map fun gain => toString gain.toNat) ++ "]"

/-- The name of the summary of a sweep. -/
def Format.summaryName : Format → String
  | .csv => "sweep_summary.csv"
  | .json => "sweep_summary.json"

/-- The text of the summary of a sweep: a line for each row below a header, or a document with a run
for each row. -/
def Format.summary (format : Format) (s : Script) (rows : List SweepRow) : String :=
  match format with
  | .csv => "vel_p,samples,max_abs_error_cm,rms_error_cm\n" ++ String.join (rows.map SweepRow.line)
  | .json => (Json.fields [("runs", .array (rows.map SweepRow.run)), ("scenario", s.toJson)]).pretty

theorem lines_sweepFlights (format : Format) (s : Script) (gains : List UInt8) :
    (sweepFlights format s gains).lines =
      sweepAnnouncement gains :: (s.sweep gains).rows.mapIdx (rowLine gains.length) := by
  unfold sweepFlights sweepAnnouncement
  simp only [intCell_natCast]

/-- The summary of a sweep that is complete is its result. -/
theorem exists_product_of_complete {format : Format} {s : Script} {gains : List UInt8}
    {rows : List SweepRow} (h : s.sweep gains = ⟨rows, .complete⟩) :
    ∃ product, (sweepFlights format s gains).product = .ok product ∧
      product.name = format.summaryName ∧ product.text = format.summary s rows := by
  unfold sweepFlights
  rw [h]
  refine ⟨_, rfl, ?_, ?_⟩
  · cases format <;> rfl
  · cases format with
    | csv => exact Sweep.table_eq _
    | json => exact Sweep.document_eq s _

namespace Flags

variable {flags : Flags} {tree tree' : FileTree} {s : Script} {product : Product}
  {failure : Failure}

/-- How a session ends that has a text for a file in the output folder. -/
inductive Leaves (flags : Flags) (tree : FileTree) (name text : String) : Prop where
  /-- The file is there and has the text. -/
  | file (hending : (flags.run tree).1.ending = .finished)
      (hread : (flags.run tree).2.read (Path.join flags.outputDir name) = .ok text)
  | noFolder (e : FileError) (hfolder : tree.makeFolders flags.outputDir = .error e)
      (hending : (flags.run tree).1.ending = .failed (.makingFolder flags.outputDir e))
  | noFile (folders : FileTree) (e : FileError)
      (hfolder : tree.makeFolders flags.outputDir = .ok folders)
      (hfile : folders.write (Path.join flags.outputDir name) text = .error e)
      (hending : (flags.run tree).1.ending =
        .failed (.writing (Path.join flags.outputDir name) e))

/-- What a session does that sweeps a script over some gains.  Its files are those of the tree. -/
structure Sweeps (flags : Flags) (tree : FileTree) (s : Script) (gains : List UInt8) : Prop where
  /-- The sweep is refused when a single flight of the script as it stands is, for the same
  reason. -/
  refused_iff (e : ScriptError) :
    (∃ gain, (flags.run tree).1.ending = .failed (.sweepFlight gain e)) ↔ s.fly = .error e
  /-- That happens at the first gain, and nothing is made or written. -/
  refused (gain : UInt8) (e : ScriptError)
    (h : (flags.run tree).1.ending = .failed (.sweepFlight gain e)) :
    gains.head? = some gain ∧ (flags.run tree).1.lines = banner ++ [sweepAnnouncement gains] ∧
      (flags.run tree).2 = tree
  /-- Otherwise a single flight with one of the gains has a fault, which stops the sweep before
  anything is made or written, or the summary has a row for each of the gains. -/
  swept (h : ∀ e, s.fly ≠ .error e) :
    (∃ gain ∈ gains, ∃ fault, s.Stops gain fault ∧
      (flags.run tree).1.ending = .stopped fault ∧ (flags.run tree).2 = tree) ∨
    ∃ rows, rows.length = flags.sweepSteps ∧ List.Forall₂ s.Flies gains rows ∧
      (∀ i j : ℕ, gains[i]? = gains[j]? → rows[i]? = rows[j]?) ∧
      flags.Leaves tree flags.format.summaryName (flags.format.summary s rows)

theorem run_of_error {ending : Ending}
    (h : (flags.simulate tree.read).product = .error ending) :
    flags.run tree = ({ lines := (flags.simulate tree.read).lines, ending }, tree) := by
  unfold run
  dsimp only
  rw [h]

section Write

variable (h : (flags.simulate tree.read).product = .ok product)

include h

theorem run_of_write_eq_error (hwrite : flags.write product tree = .error failure) :
    flags.run tree =
      ({ lines := (flags.simulate tree.read).lines, ending := .failed failure }, tree) := by
  unfold run
  dsimp only
  rw [h]
  dsimp only
  rw [hwrite]

theorem run_of_write_eq_ok (hwrite : flags.write product tree = .ok tree') :
    flags.run tree = ({
      lines := (flags.simulate tree.read).lines ++ flags.closing product
      ending := .finished }, tree') := by
  unfold run
  dsimp only
  rw [h]
  dsimp only
  rw [hwrite]

/-- A session with a result leaves its text in its file, if it can be written. -/
theorem leaves_of_ok : flags.Leaves tree product.name product.text := by
  cases hfolder : tree.makeFolders flags.outputDir with
  | error e =>
    have hwrite : flags.write product tree = .error (.makingFolder flags.outputDir e) := by
      unfold write
      rw [hfolder]
      rfl
    apply Leaves.noFolder e hfolder
    rw [run_of_write_eq_error h hwrite]
  | ok folders =>
    have hwrite : flags.write product tree =
        (folders.write (flags.resultPath product) product.text).mapError
          (.writing (flags.resultPath product)) := by
      unfold write
      rw [hfolder]
      rfl
    cases hfile : folders.write (flags.resultPath product) product.text with
    | error e =>
      rw [hfile] at hwrite
      apply Leaves.noFile folders e hfolder hfile
      rw [run_of_write_eq_error h hwrite]
      rfl
    | ok written =>
      rw [hfile] at hwrite
      have hrun := run_of_write_eq_ok h hwrite
      apply Leaves.file
      · rw [hrun]
      · rw [hrun]
        exact FileTree.read_of_write hfile

end Write

/-- The first gain of a sweep that has any. -/
theorem exists_sweepGains_cons (first last : UInt8) {count : ℕ} (hcount : 1 ≤ count) :
    ∃ gain rest, sweepGains first last count = gain :: rest := by
  have hlength := length_sweepGains first last count
  cases hgains : sweepGains first last count with
  | nil =>
    rw [hgains, List.length_nil] at hlength
    omega
  | cons gain rest => exact ⟨gain, rest, rfl⟩

section Sweep

variable {first last : UInt8} (hs : flags.script tree.read = .ok s)
  (hsweep : flags.sweep = some (first, last)) (hsteps : 1 ≤ flags.sweepSteps)
  (hroom : reserve flags.sweepSteps 1 = .ok ())

include hs hsweep hsteps hroom

theorem simulate_sweep :
    (flags.simulate tree.read).lines = banner ++
        (sweepFlights flags.format s (sweepGains first last flags.sweepSteps)).lines ∧
      (flags.simulate tree.read).product =
        (sweepFlights flags.format s (sweepGains first last flags.sweepSteps)).product := by
  have hpositive : ¬ flags.sweepSteps = 0 := by omega
  have hgains : listGains first last flags.sweepSteps =
      .ok (sweepGains first last flags.sweepSteps) := by
    unfold listGains
    rw [hroom]
    rfl
  unfold simulate
  rw [hs, hsweep]
  dsimp only
  rw [if_neg hpositive, hgains]
  exact ⟨rfl, rfl⟩

/-- A refused sweep says which gains it was for, and nothing of a flight. -/
theorem run_of_refused {e : ScriptError} (h : s.fly = .error e) :
    ∃ gain, (sweepGains first last flags.sweepSteps).head? = some gain ∧
      flags.run tree = ({
        lines := banner ++ [sweepAnnouncement (sweepGains first last flags.sweepSteps)]
        ending := .failed (.sweepFlight gain e) }, tree) := by
  obtain ⟨hlines, hproduct⟩ := simulate_sweep hs hsweep hsteps hroom
  obtain ⟨gain, rest, hgains⟩ := exists_sweepGains_cons first last hsteps
  rw [hgains] at hlines hproduct ⊢
  have hrefused : s.sweep (gain :: rest) = ⟨[], .refused gain e⟩ := Script.sweep_cons_of_error h
  have hfailed : (flags.simulate tree.read).product = .error (.failed (.sweepFlight gain e)) := by
    rw [hproduct]
    unfold sweepFlights
    rw [hrefused]
  refine ⟨gain, rfl, ?_⟩
  rw [run_of_error hfailed, hlines, lines_sweepFlights, hrefused]
  rfl

theorem run_of_accepted (h : ∀ e, s.fly ≠ .error e) :
    (∃ gain ∈ sweepGains first last flags.sweepSteps, ∃ fault, s.Stops gain fault ∧
      (flags.run tree).1.ending = .stopped fault ∧ (flags.run tree).2 = tree) ∨
    ∃ rows, List.Forall₂ s.Flies (sweepGains first last flags.sweepSteps) rows ∧
      flags.Leaves tree flags.format.summaryName (flags.format.summary s rows) := by
  obtain ⟨-, hproduct⟩ := simulate_sweep hs hsweep hsteps hroom
  rcases Script.sweep_complete_or_stopped h (sweepGains first last flags.sweepSteps) with
    ⟨rows, hrows, hcomplete⟩ | ⟨gain, hgain, fault, hfault, hstopped⟩
  · obtain ⟨product, hresult, hname, htext⟩ := exists_product_of_complete hcomplete
    refine .inr ⟨rows, hrows, ?_⟩
    rw [← hname, ← htext]
    exact leaves_of_ok (hproduct.trans hresult)
  · have hfailed : (flags.simulate tree.read).product = .error (.stopped fault) := by
      rw [hproduct]
      unfold sweepFlights
      dsimp only
      rw [hstopped]
    refine .inl ⟨gain, hgain, fault, hfault, ?_⟩
    rw [run_of_error hfailed]
    exact ⟨rfl, rfl⟩

/-- Only a script that is refused makes a session fail with a gain, and then with the first one. -/
theorem refused_of_run {gain : UInt8} {e : ScriptError}
    (h : (flags.run tree).1.ending = .failed (.sweepFlight gain e)) :
    s.fly = .error e ∧ (sweepGains first last flags.sweepSteps).head? = some gain ∧
      flags.run tree = ({
        lines := banner ++ [sweepAnnouncement (sweepGains first last flags.sweepSteps)]
        ending := .failed (.sweepFlight gain e) }, tree) := by
  cases hfly : s.fly with
  | error e' =>
    obtain ⟨gain', hhead, hrun⟩ := run_of_refused hs hsweep hsteps hroom hfly
    rw [hrun] at h
    cases h
    exact ⟨rfl, hhead, hrun⟩
  | ok result =>
    have haccepted : ∀ e, s.fly ≠ .error e := by
      intro e' he
      rw [hfly] at he
      cases he
    rcases run_of_accepted hs hsweep hsteps hroom haccepted with
      ⟨_, -, fault, -, hstopped, -⟩ | ⟨rows, -, hleaves⟩
    · rw [hstopped] at h
      cases h
    · cases hleaves with
      | file hending _ => rw [hending] at h; cases h
      | noFolder _ _ hending => rw [hending] at h; cases h
      | noFile _ _ _ _ hending => rw [hending] at h; cases h

/-- A session that sweeps a script, and has room for the gains, does what its single flights do. -/
theorem run_sweeps : flags.Sweeps tree s (sweepGains first last flags.sweepSteps) where
  refused_iff := by
    intro e
    constructor
    · rintro ⟨gain, hending⟩
      exact (refused_of_run hs hsweep hsteps hroom hending).1
    · intro he
      obtain ⟨gain, -, hrun⟩ := run_of_refused hs hsweep hsteps hroom he
      rw [hrun]
      exact ⟨gain, rfl⟩
  refused := by
    intro gain e hending
    obtain ⟨-, hhead, hrun⟩ := refused_of_run hs hsweep hsteps hroom hending
    rw [hrun]
    exact ⟨hhead, rfl, rfl⟩
  swept := by
    intro h
    rcases run_of_accepted hs hsweep hsteps hroom h with hstopped | ⟨rows, hrows, hend⟩
    · exact .inl hstopped
    · have hlength := hrows.length_eq
      rw [length_sweepGains] at hlength
      exact .inr ⟨rows, hlength.symm, hrows, fun _ _ => Script.getElem?_rows_congr hrows, hend⟩

end Sweep

/-- A sweep of holds on a ranger that is not fitted. -/
def sweptBlind : Flags where
  source := .ranger
  sweep := some (40, 60)

/-- A sweep of holds on the barometer alone. -/
def sweptOnBaro : Flags where
  noAccel := true
  sweep := some (40, 60)

/-! Where the second sweep writes, there is nothing yet. -/

theorem join_summary : Path.join "output" "sweep_summary.csv" = "output/sweep_summary.csv" := by
  unfold Path.join
  rw [if_neg (by decide +kernel)]
  decide

theorem parts_output : FileTree.parts "output" = .ok ["output"] := by
  have hplain : "output".contains '\x00' = false := by simp
  have hsplit : "output".splitOn "/" = ["output"] := by
    rw [String.splitOn, if_neg (by decide)]
    iterate 6 rw [String.splitOnAux, if_neg (by decide +kernel), if_neg (by decide +kernel)]
    rw [String.splitOnAux, if_pos (by decide +kernel)]
    decide +kernel
  unfold FileTree.parts Path.parts
  rw [hplain, hsplit]
  rfl

theorem parts_summary :
    FileTree.parts "output/sweep_summary.csv" = .ok ["output", "sweep_summary.csv"] := by
  have hplain : "output/sweep_summary.csv".contains '\x00' = false := by simp
  have hsplit : "output/sweep_summary.csv".splitOn "/" = ["output", "sweep_summary.csv"] := by
    rw [String.splitOn, if_neg (by decide)]
    iterate 6 rw [String.splitOnAux, if_neg (by decide +kernel), if_neg (by decide +kernel)]
    -- The slash is the seventh character.
    rw [String.splitOnAux, if_neg (by decide +kernel), if_pos (by decide +kernel)]
    dsimp only
    rw [if_pos (by decide +kernel)]
    iterate 17 rw [String.splitOnAux, if_neg (by decide +kernel), if_neg (by decide +kernel)]
    rw [String.splitOnAux, if_pos (by decide +kernel)]
    decide +kernel
  unfold FileTree.parts Path.parts
  rw [hplain, hsplit]
  rfl

theorem makeFolders_output :
    FileTree.makeFolders {} "output" = .ok ⟨[(["output"], .folder)]⟩ := by
  unfold FileTree.makeFolders
  rw [parts_output]
  decide +kernel

theorem exists_write_summary (text : String) :
    ∃ t, FileTree.write ⟨[(["output"], .folder)]⟩ "output/sweep_summary.csv" text = .ok t := by
  have hfollow : FileTree.follow ⟨[(["output"], .folder)]⟩ ["output", "sweep_summary.csv"] =
      .ok ["output", "sweep_summary.csv"] := by
    decide +kernel
  unfold FileTree.write
  rw [parts_summary, ok_bind, hfollow]
  exact ⟨_, rfl⟩

/-- So nothing keeps it from writing its summary. -/
theorem read_of_leaves {text : String} (h : sweptOnBaro.Leaves {} "sweep_summary.csv" text) :
    (sweptOnBaro.run {}).1.ending = .finished ∧
      (sweptOnBaro.run {}).2.read "output/sweep_summary.csv" = .ok text := by
  have hjoin : Path.join sweptOnBaro.outputDir "sweep_summary.csv" = "output/sweep_summary.csv" :=
    join_summary
  have hfolders : FileTree.makeFolders {} sweptOnBaro.outputDir =
      .ok ⟨[(["output"], .folder)]⟩ := makeFolders_output
  cases h with
  | file hending hread => exact ⟨hending, hjoin ▸ hread⟩
  | noFolder e hfolder _ =>
    rw [hfolders] at hfolder
    cases hfolder
  | noFile folders e hfolder hfile _ =>
    obtain ⟨t, ht⟩ := exists_write_summary text
    obtain rfl := Except.ok.inj (hfolders.symm.trans hfolder)
    rw [hjoin, ht] at hfile
    cases hfile

theorem script_sweptOnBaro :
    sweptOnBaro.script (FileTree.read {}) = .ok (sweptOnBaro.scriptWith {}) :=
  script_eq_ok_iff.mpr ⟨rfl, {}, rfl, rfl, rfl⟩

theorem accepted_sweptOnBaro (e : ScriptError) : (sweptOnBaro.scriptWith {}).fly ≠ .error e := by
  intro he
  have hnone := ((sweptOnBaro.scriptWith {}).failsWith_fly e).mp he
  rw [objections_of_script script_sweptOnBaro] at hnone
  cases hnone

/-- No flight of the second sweep stops, because there is no accelerometer. -/
theorem not_stops_sweptOnBaro (gain : UInt8) (fault : Fault) :
    ¬ (sweptOnBaro.scriptWith {}).Stops gain fault := by
  intro hstops
  have hpace : ((sweptOnBaro.scriptWith {}).withClimbGain gain).pace =
      (sweptOnBaro.scriptWith {}).pace := rfl
  have hroom : reserve (sweptOnBaro.scriptWith {}).pace.samples sampleBytes = .ok () := by
    decide +kernel
  have hpasses : (sweptOnBaro.scriptWith {}).pace.passes ≤ 4294967295 := by decide +kernel
  obtain ⟨log, hlog⟩ := Script.exists_fly_of_noAccel
    (s := (sweptOnBaro.scriptWith {}).withClimbGain gain)
    (fun e he => accepted_sweptOnBaro e ((Script.fly_withClimbGain_eq_error_iff _ gain e).mp he))
    rfl (hpace ▸ hroom) (hpace ▸ hpasses)
  cases hstops.symm.trans hlog

/-- The first of these sweeps is refused at its first gain.  The second one has five rows, and each is
that of a single flight. -/
theorem run_sweeps_onBaro :
    ((sweptBlind.run {}).1.ending = .failed (.sweepFlight 40 (.sensorMissing .ranger)) ∧
      (sweptBlind.run {}).1.lines =
        banner ++ ["Sweeping velocity P over [40, 45, 50, 55, 60]"] ∧
      (sweptBlind.run {}).2 = {}) ∧
    ∃ rows, List.Forall₂ (sweptOnBaro.scriptWith {}).Flies [40, 45, 50, 55, 60] rows ∧
      (sweptOnBaro.run {}).1.ending = .finished ∧
      (sweptOnBaro.run {}).2.read "output/sweep_summary.csv" =
        .ok ("vel_p,samples,max_abs_error_cm,rms_error_cm\n" ++
          String.join (rows.map SweepRow.line)) := by
  have hroom : reserve 5 1 = .ok () := by decide
  have hs : sweptBlind.script (FileTree.read {}) = .ok (sweptBlind.scriptWith {}) :=
    script_eq_ok_iff.mpr ⟨rfl, {}, rfl, rfl, rfl⟩
  have hgains : sweepGains 40 60 5 = [40, 45, 50, 55, 60] := by decide +kernel
  constructor
  · have hsweeps : sweptBlind.Sweeps {} (sweptBlind.scriptWith {}) (sweepGains 40 60 5) :=
      run_sweeps hs rfl (by decide) hroom
    rw [hgains] at hsweeps
    have hfly : (sweptBlind.scriptWith {}).fly = .error (.sensorMissing .ranger) := by
      refine ((sweptBlind.scriptWith {}).failsWith_fly _).mpr ?_
      rw [objections_of_script hs]
      rfl
    obtain ⟨gain, hending⟩ := (hsweeps.refused_iff _).mpr hfly
    obtain ⟨hhead, hlines, htree⟩ := hsweeps.refused gain _ hending
    obtain rfl := Option.some.inj hhead
    exact ⟨hending, hlines, htree⟩
  · have hsweeps : sweptOnBaro.Sweeps {} (sweptOnBaro.scriptWith {}) (sweepGains 40 60 5) :=
      run_sweeps script_sweptOnBaro rfl (by decide) hroom
    rw [hgains] at hsweeps
    rcases hsweeps.swept accepted_sweptOnBaro with
      ⟨gain, -, fault, hstops, -⟩ | ⟨rows, -, hrows, -, hleaves⟩
    · exact absurd hstops (not_stops_sweptOnBaro gain fault)
    · exact ⟨rows, hrows, read_of_leaves hleaves⟩

end Flags

end Cli

end Autopilot
