import ArenaChain.Chain.Assembly
import ArenaChain.Chain.Rebuild
import ArenaChain.Store.Arena

/-!
# A demonstration

A chain of five named nodes is assembled in an arena that just holds it, rebuilt
through a buffer of the same size, and listed before and after.
-/

namespace ArenaChain.Demo

def names : List String := ["zero", "one", "two", "three", "four"]

/-- The arena that just holds the demonstration chain, before it is filled. -/
def emptyArena : Arena 32 (Node 32) where
  slots := #[]
  capacity := names.length
  capacity_pos := by decide
  capacity_le := by decide
  size_le := by decide

def numeralChain : Except (Overflow (Node 32)) (Handle 32) × Arena 32 (Node 32) :=
  Chain.assemble (names.map Node.ofName) emptyArena

/-- What a run of the demonstration puts out: log records first, then the lines of
its result, if it got that far. -/
structure Transcript where
  records : List Log.Record
  result? : Option (List String)

def listing (message : String) (items : List (Handle 32 × Node 32)) : List Log.Record :=
  items.map fun item =>
    ⟨.info, "relink_fixture", message,
      [("index", .number item.1.toNat), ("name", .quoted item.2.name)]⟩

/-- Assemble the chain, list it, rebuild it and list it again. -/
def transcript : Transcript :=
  match numeralChain with
  | (.error _, _) => ⟨[], none⟩
  | (.ok head, arena) =>
    let before := listing "before" (Chain.toList arena head)
    let rebuilt := Chain.rebuild head names.length (.empty names.length) arena
    let events := rebuilt.events.map Chain.Event.record
    match rebuilt.result with
    | .error _ => ⟨before ++ events, none⟩
    | .ok newHead =>
      let items := Chain.toList rebuilt.store newHead
      let visited := items.map fun item => item.2.name
      ⟨before ++ events ++ listing "after" items,
        some ["result: " ++ visited.headD "<none>", " -> ".intercalate visited]⟩

def Transcript.succeeded (transcript : Transcript) : Bool := transcript.result?.isSome

/-- The lines that are put out when only some records are wanted. -/
def Transcript.lines (threshold : Log.Threshold) (transcript : Transcript) : List String :=
  let wanted := transcript.records.filter fun record => threshold.admits record.level
  wanted.map Log.Record.render ++ transcript.result?.getD []

end ArenaChain.Demo
