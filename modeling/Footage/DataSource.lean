import Footage.Listing
import Footage.Markup.Selector.Reader
import Footage.Settings
import Footage.Source.Description
import Footage.Url.Reader

/-!
# Data sources

A data source with its patterns compiled. Whatever is wrong with a description is found when the
source is compiled, in a fixed order. How the patterns themselves are compiled plays no part in
this, so that it can be done by any compiler.
-/

namespace Footage

open Markup

/-- A data source. -/
structure DataSource where
  name : String
  base : Url
  feed : FeedKind
  kits : List KitSet
  list : Option ListKit
  maxScanSteps : Option Nat
  scrapeSteps : Option Nat
  workers : Option Nat

namespace KitSet

/-- Compiles a kit set, with any compiler for its patterns. -/
def compileWith (compiler : Pattern.Compiler) (description : KitSetDescription) :
    Except Failure KitSet := do
  let event ← EventKit.compileWith compiler description.event.pattern description.event.mapping
  let sources ← description.sources.mapM fun source =>
    SourceKit.compileWith compiler source.pattern source.mapping source.videoUrl source.partLabel
  return { event, sources }

/-- Compiles a kit set. -/
def compile : KitSetDescription → Except Failure KitSet :=
  compileWith Pattern.ofText?

end KitSet

namespace ListKit

/-- Compiles a kit for listings, with any compiler for its pattern. -/
def compileWith (compiler : Pattern.Compiler) (links pattern : String) (mapping : Mapping) :
    Except Failure ListKit :=
  match Selector.read? links with
  | none => .error (.misconfigured (.badSelector links))
  | some selector =>
    (EventKit.compileWith compiler pattern mapping).map fun event => ⟨selector, event⟩

end ListKit

namespace DataSource

/-- A number that is given must not be zero. -/
def checkGiven (name : String) : Option Nat → Except Failure Unit
  | some value => checkBudget name value
  | none => .ok ()

/-- Compiles a data source, with any compiler for its patterns. -/
def compileWith (compiler : Pattern.Compiler) (description : SourceDescription) :
    Except Failure DataSource := do
  let base ← match Url.read description.base.toList with
    | .ok base => pure base
    | .error error => throw (.misconfigured (.badBase description.base error))
  if description.kits.isEmpty then throw (.misconfigured .emptySource)
  let kits ← description.kits.mapM (KitSet.compileWith compiler)
  let list ← description.list.mapM fun list =>
    ListKit.compileWith compiler list.links list.event.pattern list.event.mapping
  if description.feed = .forum ∧ list.isNone then throw (.misconfigured .noListKit)
  checkGiven "max_scan_steps" description.maxScanSteps
  checkGiven "scrape_steps" description.scrapeSteps
  checkGiven "workers" description.workers
  return {
    name := description.name.getD (base.host?.getD "data source")
    base
    feed := description.feed
    kits
    list
    maxScanSteps := description.maxScanSteps
    scrapeSteps := description.scrapeSteps
    workers := description.workers }

/-- Compiles a data source. -/
def compile : SourceDescription → Except Failure DataSource :=
  compileWith Pattern.ofText?

/-- Reads and compiles a data source, with any compiler for its patterns. -/
def readWith (compiler : Pattern.Compiler) (text : String) : Except Failure DataSource :=
  match SourceDescription.read? text with
  | some description => compileWith compiler description
  | none => .error .badYaml

/-- Reads and compiles a data source. -/
def read : String → Except Failure DataSource :=
  readWith Pattern.ofText?

/-- Settings with the source's own numbers in place of theirs. -/
def settings (source : DataSource) (base : Settings) : Settings :=
  { maxScanSteps := source.maxScanSteps.getD base.maxScanSteps
    scrapeSteps := source.scrapeSteps.getD base.scrapeSteps
    workers := source.workers.getD base.workers
    threshold := base.threshold }

/-- The number of kits. -/
def kitCount (source : DataSource) : Nat :=
  (source.kits.map fun kits => 1 + kits.sources.length).foldr (· + ·) 0 +
    if source.list.isSome then 1 else 0

end DataSource

end Footage
