import PagedFind.Unicode.CharSet

namespace PagedFind.Unicode

/-- The orbits of case folding. Each is written as its size, the distance of its least character from
that of the orbit before, and the distances between its characters. -/
def packedOrbits : List String :=
  ["ChCgBCBgBCBgBCBgBCBgBCBgBCBgBCBgBCBgBCBgBDBgB_lICBgBCBgBCBgBCBgBCBgBCBgBCBgBDBgBsICBgBCBgBC",
   "BgBCBgBCBgBCBgBCBgBD7CnXgBCLgBCBgBCBgBCBgBCBgBDBgBmiICBgBCBgBCBgBCBgBCBgBCBgBCBgBCBgBCBgBCB",
   "gBCBgBCBgBCBgBCBgBCBgBCBgBCBgBCCgBCBgBCBgBCBgBCBgBCBgBCBgBCB_tHCgB5DCBBCCBCCBCCBCCBCCBCCBCC",
   "BCCBCCBCCBCCBCCBCCBCCBCCBCCBCCBCCBCCBCCBCCBCCBCCBCEBCCBCCBCDBCCBCCBCCBCCBCCBCCBCCBCDBCCBCCB",
   "CCBCCBCCBCCBCCBCCBCCBCCBCCBCCBCCBCCBCCBCCBCCBCCBCCBCCBCCBCCBCDBCCBCCBCDjGCByGCBBCCBCCuGCBBC",
   "CtGCBtGCBBCDvCCBqGCBrGCBBCCtGCBvGCBhDCBzGCBxGCBBCCjFCBhypBCBzGCB1GCBiECB2GCBBCCBCCBCC6GCBBC",
   "C6GCDBCC6GCBBCC5GCB5GCBBCCBCC7GCBBCEBCD4BDFBBDDBBDDBBCDBCCBCCBCCBCCBCCBCCBCCBCDBCCBCCBCCBCC",
   "BCCBCCBCCBCCBDDBBCDBCEBCCBCCBCCBCCBCCBCCBCCBCCBCCBCCBCCBCCBCCBCCBCCBCCBCCBCCBCCBCEBCCBCCBCC",
   "BCCBCCBCCBCCBCCBCIrxKCBBCDoxKCB_xKCB_xKCBBCDlCCBnCCBBCCBCCBCCBCCBCC_wKCB8wKCB-wKCKvqpBCFrqp",
   "BCDnrpBCBoppBCBkqpBCEkqpBCB3vKCBhqpBCF9vKCMnvKCFjqpBCFqppBCW1opBCByopBEnF0CgBlgHCrBBCCBCEBC",
   "FiECBiECBiECC0DCHmBCClBCBlBCBlBCCgCCC_BCB_BCBjiHCBgBDBgBeCBgBCBgBDBgBgCCBgBCBgBEBgBZjBDCgB2",
   "BCBgBCCgBCBgBCBgBDBgBWDBgBwBDCfBCBgBCBgBDBgBPCBgBCBgBDBgB9qHCBgBCBgBCFzhHCfICJBCCBCCBCCBCCB",
   "CCBCCBCCBCCBCCBCCBCCBCEHCFBCDBCGwCCBwCCBwCCBwCCBwCCBwCCBwCCBwCCBwCCBwCCBwCCBwCCBwCCBwCCBwCC",
   "BwCCBgBCBgBDBgBuiGCBgBDBgBtiGCBgBCBgBCBgBCBgBCBgBCBgBCBgBCBgBCBgBDBgBkiGCBgBCBgBDBgBiiGEBgB",
   "iiGBCBgBCBgBCBgBCBgBCBgBCBgBCBgBDBgB8hGCBgBCBgBCBgBCBgBCBgBCxBBDCBkhGCCBCCBCCBCCBCCBCCBCCBC",
   "CBCCBCCBCCBCCBCCBCCBCCBCKBCCBCCBCCBCCBCCBCCBCCBCCBCCBCCBCCBCCBCCBCCBCCBCCBCCBCCBCCBCCBCCBCC",
   "BCCBCCBCCBCCBCCPCBBCCBCCBCCBCCBCCBCCBCDBCCBCCBCCBCCBCCBCCBCCBCCBCCBCCBCCBCCBCCBCCBCCBCCBCCB",
   "CCBCCBCCBCCBCCBCCBCCBCCBCCBCCBCCBCCBCCBCCBCCBCCBCCBCCBCCBCCBCCBCCBCCBCCBCCBCCBCCBCCBCCBCCBC",
   "DwBCBwBCBwBCBwBCBwBCBwBCBwBCBwBCBwBCBwBCBwBCBwBCBwBCBwBCBwBCBwBCBwBCBwBCBwBCBwBCBwBCBwBCBwB",
   "CBwBCBwBCBwBCBwBCBwBCBwBCBwBCBwBCBwBCBwBCBwBCBwBCBwBCBwBCBwBCq6CgjHCBgjHCBgjHCBgjHCBgjHCBgj",
   "HCBgjHCBgjHCBgjHCBgjHCBgjHCBgjHCBgjHCBgjHCBgjHCBgjHCBgjHCBgjHCBgjHCBgjHCBgjHCBgjHCBgjHCBgjH",
   "CBgjHCBgjHCBgjHCBgjHCBgjHCBgjHCBgjHCBgjHCBgjHCBgjHCBgjHCBgjHCBgjHCBgjHCCgjHCGgjHCDg-CCBg-CC",
   "Bg-CCBg-CCBg-CCBg-CCBg-CCBg-CCBg-CCBg-CCBg-CCBg-CCBg-CCBg-CCBg-CCBg-CCBg-CCBg-CCBg-CCBg-CCB",
   "g-CCBg-CCBg-CCBg-CCBg-CCBg-CCBg-CCBg-CCBg-CCBg-CCBg-CCBg-CCBg-CCBg-CCBg-CCBg-CCBg-CCBg-CCBg",
   "-CCBg-CCBg-CCBg-CCBg-CCDg-CCBg-CCBg-CChVw-lBCBw-lBCBw-lBCBw-lBCBw-lBCBw-lBCBw-lBCBw-lBCBw-l",
   "BCBw-lBCBw-lBCBw-lBCBw-lBCBw-lBCBw-lBCBw-lBCBw-lBCBw-lBCBw-lBCBw-lBCBw-lBCBw-lBCBw-lBCBw-lB",
   "CBw-lBCBw-lBCBw-lBCBw-lBCBw-lBCBw-lBCBw-lBCBw-lBCBw-lBCBw-lBCBw-lBCBw-lBCBw-lBCBw-lBCBw-lBC",
   "Bw-lBCBw-lBCBw-lBCBw-lBCBw-lBCBw-lBCBw-lBCBw-lBCBw-lBCBw-lBCBw-lBCBw-lBCBw-lBCBw-lBCBw-lBCB",
   "w-lBCBw-lBCBw-lBCBw-lBCBw-lBCBw-lBCBw-lBCBw-lBCBw-lBCBw-lBCBw-lBCBw-lBCBw-lBCBw-lBCBw-lBCBw",
   "-lBCBw-lBCBw-lBCBw-lBCBw-lBCBw-lBCBw-lBCBw-lBCBw-lBCBw-lBCBw-lBCBICBICBICBICBICBIDzkCiuiBBC",
   "BBCwHkwiBCEm3DCR4xiBCyDBCCBCCBCCBCCBCCBCCBCCBCCBCCBCCBCCBCCBCCBCCBCCBCCBCCBCCBCCBCCBCCBCCBC",
   "CBCCBCCBCCBCCBCCBCCBCCBCCBCCBCCBCCBCCBCCBCCBCCBCCBCCBCCBCCBCCBCCBCCBCCBCCBDCB6BCCBCCBCCBCCB",
   "CCBCCBCCBCCBCCBCCBCCBCCBCCBCCBCCBCCBCCBCCBCCBCCBCCBCCBCCBCCBCCBCCBCMBCCBCCBCCBCCBCCBCCBCCBC",
   "CBCCBCCBCCBCCBCCBCCBCCBCCBCCBCCBCCBCCBCCBCCBCCBCCBCCBCCBCCBCCBCCBCCBCCBCCBCCBCCBCCBCCBCCBCC",
   "BCCBCCBCCBCCBCCBCCBCCBCCBCCBCCICBICBICBICBICBICBICBICJICBICBICBICBICBICLICBICBICBICBICBICBI",
   "CBICJICBICBICBICBICBICBICBICJICBICBICBICBICBICMICCICCICCICJICBICBICBICBICBICBICBICJqCCBqCCB",
   "2CCB2CCB2CCB2CCBkDCBkDCBgECBgECBwDCBwDCB-DCB-DCDICBICBICBICBICBICBICBICJICBICBICBICBICBICBI",
   "CBICJICBICBICBICBICBICBICBICJICBICCJCQJCNICBICPICBICEHCOJC_JcCuBQCBQCBQCBQCBQCBQCBQCBQCBQCB",
   "QCBQCBQCBQCBQCBQCBQCUBCzZaCBaCBaCBaCBaCBaCBaCBaCBaCBaCBaCBaCBaCBaCBaCBaCBaCBaCBaCBaCBaCBaCB",
   "aCBaCBaCBaCx5BwBCBwBCBwBCBwBCBwBCBwBCBwBCBwBCBwBCBwBCBwBCBwBCBwBCBwBCBwBCBwBCBwBCBwBCBwBCBw",
   "BCBwBCBwBCBwBCBwBCBwBCBwBCBwBCBwBCBwBCBwBCBwBCBwBCBwBCBwBCBwBCBwBCBwBCBwBCBwBCBwBCBwBCBwBCB",
   "wBCBwBCBwBCBwBCBwBCBwBCxBBCHBCCBCCBCHBCDBCLBCCBCCBCCBCCBCCBCCBCCBCCBCCBCCBCCBCCBCCBCCBCCBCC",
   "BCCBCCBCCBCCBCCBCCBCCBCCBCCBCCBCCBCCBCCBCCBCCBCCBCCBCCBCCBCCBCCBCCBCCBCCBCCBCCBCCBCCBCCBCCB",
   "CCBCCBCCBCJBCCBCFBCuqeBCCBCCBCCBCCBCEBCCBCCBCCBCCBCCBCCBCCBCCBCCBCCBCCBCCBCCBCCBCCBCCBCUBCC",
   "BCCBCCBCCBCCBCCBCCBCCBCCBCCBCCBCCBCCBCoEBCCBCCBCCBCCBCCBCCBCEBCCBCCBCCBCCBCCBCCBCCBCCBCCBCC",
   "BCCBCCBCCBCCBCCBCCBCCBCCBCCBCCBCCBCCBCCBCCBCCBCCBCCBCCBCCBCCBCLBCCBCDBCCBCCBCCBCCBCFBCFBCCB",
   "CCwBCCBCCBCCBCCBCCBCCBCCBCCBCCBCCBCLgdCBBCCBCCBCCBCCBCCBCCBCCBCFBCCBCDBCEBCGBCCBCCBCbBCw4UB",
   "C8gBgBCBgBCBgBCBgBCBgBCBgBCBgBCBgBCBgBCBgBCBgBCBgBCBgBCBgBCBgBCBgBCBgBCBgBCBgBCBgBCBgBCBgBC",
   "BgBCBgBCBgBCBgBCmmBoBCBoBCBoBCBoBCBoBCBoBCBoBCBoBCBoBCBoBCBoBCBoBCBoBCBoBCBoBCBoBCBoBCBoBCB",
   "oBCBoBCBoBCBoBCBoBCBoBCBoBCBoBCBoBCBoBCBoBCBoBCBoBCBoBCBoBCBoBCBoBCBoBCBoBCBoBCBoBCBoBCpEoB",
   "CBoBCBoBCBoBCBoBCBoBCBoBCBoBCBoBCBoBCBoBCBoBCBoBCBoBCBoBCBoBCBoBCBoBCBoBCBoBCBoBCBoBCBoBCBo",
   "BCBoBCBoBCBoBCBoBCBoBCBoBCBoBCBoBCBoBCBoBCBoBCBoBC9EnBCBnBCBnBCBnBCBnBCBnBCBnBCBnBCBnBCBnBC",
   "BnBCCnBCBnBCBnBCBnBCBnBCBnBCBnBCBnBCBnBCBnBCBnBCBnBCBnBCBnBCBnBCCnBCBnBCBnBCBnBCBnBCBnBCBnB",
   "CCnBCBnBCr3BgCCBgCCBgCCBgCCBgCCBgCCBgCCBgCCBgCCBgCCBgCCBgCCBgCCBgCCBgCCBgCCBgCCBgCCBgCCBgCC",
   "BgCCBgCCBgCCBgCCBgCCBgCCBgCCBgCCBgCCBgCCBgCCBgCCBgCCBgCCBgCCBgCCBgCCBgCCBgCCBgCCBgCCBgCCBgC",
   "CBgCCBgCCBgCCBgCCBgCCBgCCBgCCBgCC-EgBCBgBCBgBCBgBCBgBCBgBCBgBCBgBCBgBCBgBCBgBCBgBCBgBCBgBCB",
   "gBCBgBCBgBCBgBCBgBCBgBCBgBCBgBC75CgBCBgBCBgBCBgBCBgBCBgBCBgBCBgBCBgBCBgBCBgBCBgBCBgBCBgBCBg",
   "BCBgBCBgBCBgBCBgBCBgBCBgBCBgBCBgBCBgBCBgBCBgBCBgBCBgBCBgBCBgBCBgBCBgBChsVgBCBgBCBgBCBgBCBgB",
   "CBgBCBgBCBgBCBgBCBgBCBgBCBgBCBgBCBgBCBgBCBgBCBgBCBgBCBgBCBgBCBgBCBgBCBgBCBgBCBgBCBgBCBgBCBg",
   "BCBgBCBgBCBgBCBgBCh1eiBCBiBCBiBCBiBCBiBCBiBCBiBCBiBCBiBCBiBCBiBCBiBCBiBCBiBCBiBCBiBCBiBCBiB",
   "CBiBCBiBCBiBCBiBCBiBCBiBCBiBCBiBCBiBCBiBCBiBCBiBCBiBCBiBCBiBCBiB"]

def orbitFrom (code : Nat) : Nat → List Nat → List Nat × List Nat
  | 0, numbers => ([code], numbers)
  | _, [] => ([code], [])
  | more + 1, step :: numbers =>
    let (codes, rest) := orbitFrom (code + step) more numbers
    (code :: codes, rest)

def orbitsFrom (start : Nat) (numbers : List Nat) : Nat → List (List Nat)
  | 0 => []
  | rows + 1 =>
    match numbers with
    | size :: step :: numbers =>
      let (codes, rest) := orbitFrom (start + step) (size - 1) numbers
      codes :: orbitsFrom (start + step) rest rows
    | _ => []

def orbits : List (List Nat) :=
  let numbers := unpack packedOrbits
  orbitsFrom 0 numbers numbers.length

def foldCase (s : CharSet) : CharSet :=
  s.union (CharSet.ofCodes (orbits.filter (·.any s.contains)).flatten)

end PagedFind.Unicode
