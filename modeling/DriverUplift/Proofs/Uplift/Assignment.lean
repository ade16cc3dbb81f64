import DriverUplift.Proofs.Uplift.Completion

/-!
# Uplifts as assignments

A run decodes a section, revises the platform and encodes it again.  What it
writes is nevertheless the document with a few texts assigned in it: nothing is
lost on the way, whatever is carried along and whatever is left out or null.
-/

namespace DriverUplift.Uplift

open Github (Client)

/--
A run that succeeds writes the document in which the texts that it was told are
assigned to the attributes of its section; the order of members aside, nothing
else is different from the manifest that was read.
-/
theorem run_same_assignAll {client : Client} {config : Config} {disk : Disk}
    {text version : String} {manifest : Manifest} (fixed : client.transport.IsFixed)
    (read : disk.read config.manifestPath = .ok text)
    (parsed : Manifest.parse text = .ok manifest)
    (ok : (run client config disk).result = .ok version) :
    ∃ (findings : Findings) (written : Manifest),
      findings.Reported (fun url body => client.transport.answer [] url = .ok body)
        client.apiBase ∧
      (revise client config (.ok text)).1 = .ok ⟨written, version⟩ ∧
      disk.write config.manifestPath (.text written.render) = .ok (run client config disk).disk ∧
      (run client config disk).disk.read config.manifestPath = .ok written.render ∧
      written.same (manifest.assignAll config.platform findings.assignments) = true := by
  obtain ⟨done, rfl⟩ := Completion.exists_of_run ok
  obtain ⟨rfl, rfl⟩ := done.eq_of_read read parsed
  obtain ⟨findings, reported, edits⟩ := done.exists_findings
  have answers : client.transport.Answers =
      fun url body => client.transport.answer [] url = .ok body := by
    funext url body
    exact propext fixed.answers_iff
  rw [answers] at reported
  rw [done.run_eq, ← read, done.revise_eq]
  refine ⟨findings, done.result, reported, rfl, done.write_eq, done.read_written, ?_⟩
  rw [← edits]
  exact Manifest.same_withPlatform (Manifest.distinctKeys_of_parse parsed) done.decoded
    done.trace.edits

theorem run_same_assignAll_sample :
    (run Sample.client (Sample.config "wsl") Sample.disk).result = .ok "v2" ∧
      ∃ (findings : Findings) (written : Manifest),
        findings.Reported (fun url body => Sample.answer url = .ok body) "api" ∧
        (revise Sample.client (Sample.config "wsl") (.ok Sample.manifest.render)).1 =
          .ok ⟨written, "v2"⟩ ∧
        Sample.disk.write "manifest.json" (.text written.render) =
          .ok (run Sample.client (Sample.config "wsl") Sample.disk).disk ∧
        (run Sample.client (Sample.config "wsl") Sample.disk).disk.read "manifest.json" =
          .ok written.render ∧
        written.same (Sample.manifest.assignAll "wsl" findings.assignments) = true := by
  have ran : (run Sample.client (Sample.config "wsl") Sample.disk).result = .ok "v2" :=
    Sample.run_eq rfl
  exact ⟨ran, run_same_assignAll (Transport.isFixed_fixed Sample.answer) Sample.read_disk
    Sample.parse_render ran⟩

end DriverUplift.Uplift
