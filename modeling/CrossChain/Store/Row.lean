/-!
# Rows

The rows of the reference tables as they are stored. Texts are untrimmed and numbers may be texts,
so that one malformed row can be left out without losing the others.
-/

namespace CrossChain

structure ChainRow where
  id : Int
  chainId : String
  realChainId : String
  name : String
  aliasName : String
  backend : Int
  eip1559 : Int
  networkCode : Int
  icon : String
  blockInterval : Int
  timeout : Int
  endpoint : String
  explorerUrl : String
  officialRpc : String
  mevRpc : Option String
  disabled : Int
  isTestnet : Int
  orderWeight : Int
  gasTokenName : String
  gasTokenAddress : String
  gasTokenDecimals : Int
  gasTokenIcon : String
  transferContract : Option String
  depositContract : Option String
  layer1 : Option String
  deriving DecidableEq, Repr, Inhabited

structure TokenRow where
  tokenName : String
  chainName : String
  tokenAddress : String
  decimals : Int
  fullName : String
  totalSupply : String
  icon : String
  deriving DecidableEq, Repr, Inhabited

structure AccountRow where
  id : Int
  chainId : Int
  address : String
  deriving DecidableEq, Repr, Inhabited

structure MakerGroupRow where
  id : Int
  groupName : String
  env : String
  deriving DecidableEq, Repr, Inhabited

structure MakerAddressRow where
  id : Int
  groupId : Int
  backend : Int
  address : String
  deriving DecidableEq, Repr, Inhabited

structure TierRow where
  amount : String
  fee : String
  deriving DecidableEq, Repr, Inhabited

structure FeeRow where
  tokenName : String
  fromChain : String
  toChain : String
  first : TierRow
  second : TierRow
  third : TierRow
  fourth : TierRow
  deriving DecidableEq, Repr, Inhabited

end CrossChain
