import Tokenizer.Command.Run
import Tokenizer.Proofs.Noting

/-!
# What a host is asked

A host can note what it is asked while it gives the answers of another host (`noting`).  While the
settings of a run are searched for, it is asked about files and directories only.

* `asksOnly_findSettings`: the search for settings leaves the standard input alone.
-/

namespace Tokenizer

/-- A question to a host. -/
inductive Question
  | isFile (p : Path)
  | read (p : Path)
  | canonical (p : Path)
  | workingDirectory
  | standardInput
deriving DecidableEq

/-- The host that answers as `host` does and notes what it is asked. -/
def Host.noting (host : Host Id) : Host (StateM (List Question)) where
  isFile p := note (.isFile p) (host.isFile p)
  read p := note (.read p) (host.read p)
  canonical? p := note (.canonical p) (host.canonical? p)
  workingDirectory? := note .workingDirectory host.workingDirectory?
  standardInput := note .standardInput host.standardInput

variable (host : Host Id)

theorem Settings.asksOnly_load (p : Path) :
    AsksOnly (· ≠ .standardInput) (load host.noting p) (load host p) := by
  refine .bind (.note nofun _) fun answer => ?_
  cases answer with
  | ok text => exact .pure _
  | error fault => exact .pure _

theorem Settings.asksOnly_findAndLoad (start : Path) :
    AsksOnly (· ≠ .standardInput) (findAndLoad host.noting start) (findAndLoad host start) := by
  refine .bind (.findM? fun p _ => .note nofun _) fun found => ?_
  cases found with
  | none => exact .pure _
  | some p => exact asksOnly_load host p

namespace Command

theorem asksOnly_searchStart? (source? : Option Path) :
    AsksOnly (· ≠ .standardInput) (searchStart? host.noting source?)
      (searchStart? host source?) := by
  cases source? with
  | none => exact .note nofun _
  | some p => exact .bind (.note nofun _) fun _ => .pure _

/-- The search for the settings of a run never asks for the standard input. -/
theorem asksOnly_findSettings (o : Options) :
    AsksOnly (· ≠ .standardInput) (findSettings host.noting o) (findSettings host o) := by
  unfold findSettings
  split
  · exact Settings.asksOnly_load host _
  · refine (asksOnly_searchStart? host _).bind fun start? => ?_
    cases start? with
    | none => exact .pure _
    | some start =>
        refine (Settings.asksOnly_findAndLoad host start).bind fun r => ?_
        split
        · exact .pure _
        · exact .pure _

end Command

end Tokenizer
