import FeatureFlags.Pattern.CharSet
import FeatureFlags.Pattern.Property.Coded

/-!
# Letters that differ only in case

Two characters are in one orbit when a match that ignores case takes the one for the other. `k`,
`K` and the Kelvin sign are one orbit.
-/

namespace FeatureFlags.Pattern

/-- The orbits of more than one character: for each the step from the first character of the orbit
before it, the steps between its own characters, and a zero. -/
def orbitCode : List String := [
  "cNbGABbGABbGABbGABbGABbGABbGABbGABbGABbGABbGmkLABbGABbGABbGABbGABbGABbGABbGABbGkIABbGA",
  "BbGABbGABbGABbGABbGABbGAdNbcPbGALbGABbGABbGABbGABbGABbGmfUABbGABbGABbGABbGABbGABbGA",
  "BbGABbGABbGABbGABbGABbGABbGABbGABbGABbGABbGACbGABbGABbGABbGABbGABbGABbGABlgXAbGeRABBA",
  "CBACBACBACBACBACBACBACBACBACBACBACBACBACBACBACBACBACBACBACBACBACBACBAEBACBACBADBACBA",
  "CBACBACBACBACBACBADBACBACBACBACBACBACBACBACBACBACBACBACBACBACBACBACBACBACBACBACBACBA",
  "CBADBACBACBADhNABiCABBACBAChYABBAChXABhXABBADdBABhUABhVABBAChXABhZABdTABiDABiBABBACgHA",
  "BckyZABiDABiFABfAABiGABBACBACBACiKABBACiKADBACiKABBACiJABiJABBACBACiLABBAEBADcEAFBBA",
  "DBBADBBADBACBACBACBACBACBACBACBADBACBACBACBACBACBACBACBACBADBBADBAEBACBACBACBACBACBA",
  "CBACBACBACBACBACBACBACBACBACBACBACBACBACBAEBACBACBACBACBACBACBACBACBAIpzFABBADpzCA",
  "BpzZABpzZABBADcRABcTABBACBACBACBACBACpyTABpyQABpySAKckpRAFckpNADckqPABckoEABckpGA",
  "EckpGABpxFABckpDAFpxLAMpwPAFckpFAFckoGAWcknLABcknIAgLdGbGkpXAbRBACBAEBAFfAABfAABfAA",
  "CeMAHbMACbLABbLABbLACcMACcLABcLABksHABbGABbGbEABbGABbGABbGcMABbGABbGABbGZbJACbGcCABbGA",
  "CbGABbGABbGABbGWABbGbWACbFBABbGABbGABbGPABbGABbGABbGldDABbGABbGAFkrRAbFIAJBACBACBACBA",
  "CBACBACBACBACBACBACBACBAEHAFBADBAGdCABdCABdCABdCABdCABdCABdCABdCABdCABdCABdCABdCABdCA",
  "BdCABdCABdCABbGABbGABbGjfIABbGABbGjfHABbGABbGABbGABbGABbGABbGABbGABbGABbGABbGjeYABbGA",
  "BbGABbGjeWABbGjeWBABbGABbGABbGABbGABbGABbGABbGABbGjeQABbGABbGABbGABbGABbGAbXBACBjdSA",
  "CBACBACBACBACBACBACBACBACBACBACBACBACBACBACBAKBACBACBACBACBACBACBACBACBACBACBACBACBA",
  "CBACBACBACBACBACBACBACBACBACBACBACBACBACBACPABBACBACBACBACBACBACBADBACBACBACBACBACBA",
  "CBACBACBACBACBACBACBACBACBACBACBACBACBACBACBACBACBACBACBACBACBACBACBACBACBACBACBACBA",
  "CBACBACBACBACBACBACBACBACBACBACBACBACBACBADbWABbWABbWABbWABbWABbWABbWABbWABbWABbWABbWA",
  "BbWABbWABbWABbWABbWABbWABbWABbWABbWABbWABbWABbWABbWABbWABbWABbWABbWABbWABbWABbWABbWA",
  "BbWABbWABbWABbWABbWABbWAehEktKABktKABktKABktKABktKABktKABktKABktKABktKABktKABktKABktKA",
  "BktKABktKABktKABktKABktKABktKABktKABktKABktKABktKABktKABktKABktKABktKABktKABktKABktKA",
  "BktKABktKABktKABktKABktKABktKABktKABktKABktKACktKAGktKADelSABelSABelSABelSABelSABelSA",
  "BelSABelSABelSABelSABelSABelSABelSABelSABelSABelSABelSABelSABelSABelSABelSABelSABelSA",
  "BelSABelSABelSABelSABelSABelSABelSABelSABelSABelSABelSABelSABelSABelSABelSABelSABelSA",
  "BelSABelSABelSADelSABelSABelSAzXcfmUABcfmUABcfmUABcfmUABcfmUABcfmUABcfmUABcfmUABcfmUA",
  "BcfmUABcfmUABcfmUABcfmUABcfmUABcfmUABcfmUABcfmUABcfmUABcfmUABcfmUABcfmUABcfmUABcfmUA",
  "BcfmUABcfmUABcfmUABcfmUABcfmUABcfmUABcfmUABcfmUABcfmUABcfmUABcfmUABcfmUABcfmUABcfmUA",
  "BcfmUABcfmUABcfmUABcfmUABcfmUABcfmUABcfmUABcfmUABcfmUABcfmUABcfmUABcfmUABcfmUABcfmUA",
  "BcfmUABcfmUABcfmUABcfmUABcfmUABcfmUABcfmUABcfmUABcfmUABcfmUABcfmUABcfmUABcfmUABcfmUA",
  "BcfmUABcfmUABcfmUABcfmUABcfmUABcfmUABcfmUABcfmUABcfmUABcfmUABcfmUABcfmUABcfmUABcfmUA",
  "BcfmUABIABIABIABIABIABIAdgLcaeKBABBAjGcagYAEfqSARcaiYAeKBACBACBACBACBACBACBACBACBACBA",
  "CBACBACBACBACBACBACBACBACBACBACBACBACBACBACBACBACBACBACBACBACBACBACBACBACBACBACBACBA",
  "CBACBACBACBACBACBACBACBACBACBACBcGACBACBACBACBACBACBACBACBACBACBACBACBACBACBACBACBACBA",
  "CBACBACBACBACBACBACBACBACBAMBACBACBACBACBACBACBACBACBACBACBACBACBACBACBACBACBACBACBA",
  "CBACBACBACBACBACBACBACBACBACBACBACBACBACBACBACBACBACBACBACBACBACBACBACBACBACBACBACBA",
  "CBACIABIABIABIABIABIABIABIAJIABIABIABIABIABIALIABIABIABIABIABIABIABIAJIABIABIABIABIA",
  "BIABIABIAJIABIABIABIABIABIAMIACIACIACIAJIABIABIABIABIABIABIABIAJcWABcWABdIABdIABdIA",
  "BdIABdWABdWABeYABeYABeIABeIABeWABeWADIABIABIABIABIABIABIABIAJIABIABIABIABIABIABIABIA",
  "JIABIABIABIABIABIABIABIAJIABIACJAQJANIABIAPIABIAEHAOJAmHbCAbUQABQABQABQABQABQABQABQA",
  "BQABQABQABQABQABQABQABQAUBAbfNbAABbAABbAABbAABbAABbAABbAABbAABbAABbAABbAABbAABbAABbAA",
  "BbAABbAABbAABbAABbAABbAABbAABbAABbAABbAABbAABbAAcsVbWABbWABbWABbWABbWABbWABbWABbWABbWA",
  "BbWABbWABbWABbWABbWABbWABbWABbWABbWABbWABbWABbWABbWABbWABbWABbWABbWABbWABbWABbWABbWA",
  "BbWABbWABbWABbWABbWABbWABbWABbWABbWABbWABbWABbWABbWABbWABbWABbWABbWABbWAbXBAHBACBACBA",
  "HBADBALBACBACBACBACBACBACBACBACBACBACBACBACBACBACBACBACBACBACBACBACBACBACBACBACBACBA",
  "CBACBACBACBACBACBACBACBACBACBACBACBACBACBACBACBACBACBACBACBACBACBACBACBAJBACBAFBA",
  "btyKBACBACBACBACBAEBACBACBACBACBACBACBACBACBACBACBACBACBACBACBACBACBAUBACBACBACBACBA",
  "CBACBACBACBACBACBACBACBACBAfGBACBACBACBACBACBACBAEBACBACBACBACBACBACBACBACBACBACBACBA",
  "CBACBACBACBACBACBACBACBACBACBACBACBACBACBACBACBACBACBACBALBACBADBACBACBACBACBAFBAFBA",
  "CBACbWACBACBACBACBACBACBACBACBACBACBALbjSABBACBACBACBACBACBACBACBAFBACBADBACBACBACBA",
  "CBACBACBACBAbBBAbflWBAboMbGABbGABbGABbGABbGABbGABbGABbGABbGABbGABbGABbGABbGABbGABbGA",
  "BbGABbGABbGABbGABbGABbGABbGABbGABbGABbGABbGAbvAbOABbOABbOABbOABbOABbOABbOABbOABbOABbOA",
  "BbOABbOABbOABbOABbOABbOABbOABbOABbOABbOABbOABbOABbOABbOABbOABbOABbOABbOABbOABbOABbOA",
  "BbOABbOABbOABbOABbOABbOABbOABbOABbOAfHbOABbOABbOABbOABbOABbOABbOABbOABbOABbOABbOABbOA",
  "BbOABbOABbOABbOABbOABbOABbOABbOABbOABbOABbOABbOABbOABbOABbOABbOABbOABbOABbOABbOABbOA",
  "BbOABbOABbOAgBbNABbNABbNABbNABbNABbNABbNABbNABbNABbNABbNACbNABbNABbNABbNABbNABbNABbNA",
  "BbNABbNABbNABbNABbNABbNABbNABbNACbNABbNABbNABbNABbNABbNABbNACbNABbNAcqDcMABcMABcMABcMA",
  "BcMABcMABcMABcMABcMABcMABcMABcMABcMABcMABcMABcMABcMABcMABcMABcMABcMABcMABcMABcMABcMA",
  "BcMABcMABcMABcMABcMABcMABcMABcMABcMABcMABcMABcMABcMABcMABcMABcMABcMABcMABcMABcMABcMA",
  "BcMABcMABcMABcMABcMAgCbGABbGABbGABbGABbGABbGABbGABbGABbGABbGABbGABbGABbGABbGABbGABbGA",
  "BbGABbGABbGABbGABbGABbGAegPbGABbGABbGABbGABbGABbGABbGABbGABbGABbGABbGABbGABbGABbGABbGA",
  "BbGABbGABbGABbGABbGABbGABbGABbGABbGABbGABbGABbGABbGABbGABbGABbGABbGAbgjXbGABbGABbGA",
  "BbGABbGABbGABbGABbGABbGABbGABbGABbGABbGABbGABbGABbGABbGABbGABbGABbGABbGABbGABbGABbGA",
  "BbGABbGABbGABbGABbGABbGABbGABbGAcNbBABbBABbBABbBABbBABbBABbBABbBABbBABbBABbBABbBABbBA",
  "BbBABbBABbBABbBABbBABbBABbBABbBABbBABbBABbBABbBAbuiAbIABbIABbIABbIABbIABbIABbIABbIA",
  "BbIABbIABbIABbIABbIABbIABbIABbIABbIABbIABbIABbIABbIABbIABbIABbIABbIABbIABbIABbIABbIA",
  "BbIABbIABbIABbIABbIA"]

/-- Split the steps at the zeros, and add up those of each orbit. -/
def orbitsOfSteps (first last : Nat) (orbit : List Nat) : List Nat → List (List Nat)
  | [] => []
  | step :: rest =>
    if orbit.isEmpty then orbitsOfSteps (first + step) (first + step) [first + step] rest
    else if step = 0 then orbit.reverse :: orbitsOfSteps first first [] rest
    else orbitsOfSteps first (last + step) ((last + step) :: orbit) rest

/-- The orbits of more than one character. -/
def orbits : List (List Nat) :=
  orbitsOfSteps 0 0 [] (Property.numbers 0 (String.join orbitCode).toList)

/-- The set with all characters that differ from one of its own only in case. -/
def CharSet.foldCase (s : CharSet) : CharSet :=
  s.union (.ofSpans ((orbits.filter fun o => o.any s.contains).flatten.map fun c => ⟨c, c⟩))

/-- The set with the ASCII characters that differ from one of its own only in case. -/
def CharSet.foldAsciiCase (s : CharSet) : CharSet :=
  let letters := (List.range 26).filter fun i => s.contains (0x41 + i) || s.contains (0x61 + i)
  s.union (.ofSpans (letters.flatMap fun i => [⟨0x41 + i, 0x41 + i⟩, ⟨0x61 + i, 0x61 + i⟩]))

end FeatureFlags.Pattern
