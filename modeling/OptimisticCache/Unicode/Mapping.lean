import OptimisticCache.Unicode.Table
/-!
# Mapping of characters in names

Before names of domains are compared, every character is mapped: letters to lower
case, variants of a character to the character they stand for, and some characters
to nothing.  Characters that the table does not cover may not stand in a name.
-/

namespace OptimisticCache
namespace Mapping

/-- What becomes of a character. -/
inductive Action where
  /-- It stays. -/
  | valid
  /-- It is left out. -/
  | ignored
  /-- Every second character, from the first one on, becomes its successor. -/
  | paired
  /-- It moves by a distance. -/
  | shifted (distance : Int)
  /-- Each character has a text of its own. -/
  | listed (texts : List (List Nat))
deriving DecidableEq

/-- The rows of the table.  An entry tells that its characters stay ({lit}`v`), are left out
({lit}`i`), are paired ({lit}`a`), are shifted by a signed distance, or are listed
({lit}`m`). -/
def rows : List String :=
  ["0-40 v;41-5a +20;5b-7f v;a0 m20;a1-a7 v;a8 m20.308;a9 v;aa m61;ab-ac v;ad i;ae v",
    "af m20.304;b0-b1 v;b2-b5 m32,33,20.301,3bc;b6-b7 v;b8-ba m20.327,31,6f;bb v",
    "bc-be m31.2044.34,31.2044.32,33.2044.34;bf v;c0-d6 +20;d7 v;d8-de +20;df-ff v;100-12f a",
    "130 m69.307;131 v;132-133 m69.6a,69.6a;134-137 a;138 v;139-13e a;13f-140 m6c.b7,6c.b7",
    "141-148 a;149 m2bc.6e;14a-177 a;178 mff;179-17e a;17f m73;180 v;181 m253;182-185 a",
    "186-187 m254,188;188 v;189-18b m256,257,18c;18c-18d v;18e-191 m1dd,259,25b,192;192 v",
    "193-194 m260,263;195 v;196-198 m269,268,199;199-19b v;19c-19d m26f,272;19e v;19f m275",
    "1a0-1a5 a;1a6-1a7 m280,1a8;1a8 v;1a9 m283;1aa-1ab v;1ac m1ad;1ad v;1ae-1af m288,1b0",
    "1b0 v;1b1-1b2 +d9;1b3-1b6 a;1b7-1b8 m292,1b9;1b9-1bb v;1bc m1bd;1bd-1c3 v",
    "1c4-1cc m64.17e,64.17e,64.17e,6c.6a,6c.6a,6c.6a,6e.6a,6e.6a,6e.6a;1cd-1dc a;1dd v",
    "1de-1ef a;1f0 v;1f1-1f4 m64.7a,64.7a,64.7a,1f5;1f5 v;1f6-1f7 m195,1bf;1f8-21f a;220 m19e",
    "221 v;222-233 a;234-239 v;23a-23b m2c65,23c;23c v;23d-23e m19a,2c66;23f-240 v;241 m242",
    "242 v;243-245 m180,289,28c;246-24f a;250-2af v;2b0-2b8 m68,266,6a,72,279,27b,281,77,79",
    "2b9-2d7 v;2d8-2dd m20.306,20.307,20.30a,20.328,20.303,20.30b;2de-2df v",
    "2e0-2e4 m263,6c,73,78,295;2e5-33f v;340-341 -40;342 v;343-345 m313,308.301,3b9;346-34e v",
    "34f i;350-36f v;370-373 a;374 m2b9;375 v;376 m377;377 v;37a m20.3b9;37b-37d v",
    "37e-37f m3b,3f3;384-38a m20.301,20.308.301,3ac,b7,3ad,3ae,3af;38c m3cc;38e-38f +3f;390 v",
    "391-3a1 +20;3a3-3ab +20;3ac-3ce v;3cf-3d6 m3d7,3b2,3b8,3c5,3cd,3cb,3c6,3c0;3d7 v",
    "3d8-3ef a;3f0-3f2 m3ba,3c1,3c3;3f3 v;3f4-3f5 m3b8,3b5;3f6 v;3f7 m3f8;3f8 v",
    "3f9-3fa m3c3,3fb;3fb-3fc v;3fd-3ff -82;400-40f +50;410-42f +20;430-45f v;460-481 a",
    "482-489 v;48a-4bf a;4c0 m4cf;4c1-4ce a;4cf v;4d0-52f a;531-556 +30;559-586 v",
    "587 m565.582;588-58a v;58d-58f v;591-5c7 v;5d0-5ea v;5ef-5f4 v;606-61b v;61d-674 v",
    "675-678 m627.674,648.674,6c7.674,64a.674;679-6dc v;6de-70d v;710-74a v;74d-7b1 v",
    "7c0-7fa v;7fd-82d v;830-83e v;840-85b v;85e v;860-86a v;870-88f v;897-8e1 v;8e3-957 v",
    "958-95f m915.93c,916.93c,917.93c,91c.93c,921.93c,922.93c,92b.93c,92f.93c;960-983 v",
    "985-98c v;98f-990 v;993-9a8 v;9aa-9b0 v;9b2 v;9b6-9b9 v;9bc-9c4 v;9c7-9c8 v;9cb-9ce v",
    "9d7 v;9dc-9dd m9a1.9bc,9a2.9bc;9df m9af.9bc;9e0-9e3 v;9e6-9fe v;a01-a03 v;a05-a0a v",
    "a0f-a10 v;a13-a28 v;a2a-a30 v;a32 v;a33 ma32.a3c;a35 v;a36 ma38.a3c;a38-a39 v;a3c v",
    "a3e-a42 v;a47-a48 v;a4b-a4d v;a51 v;a59-a5b ma16.a3c,a17.a3c,a1c.a3c;a5c v;a5e ma2b.a3c",
    "a66-a76 v;a81-a83 v;a85-a8d v;a8f-a91 v;a93-aa8 v;aaa-ab0 v;ab2-ab3 v;ab5-ab9 v",
    "abc-ac5 v;ac7-ac9 v;acb-acd v;ad0 v;ae0-ae3 v;ae6-af1 v;af9-aff v;b01-b03 v;b05-b0c v",
    "b0f-b10 v;b13-b28 v;b2a-b30 v;b32-b33 v;b35-b39 v;b3c-b44 v;b47-b48 v;b4b-b4d v",
    "b55-b57 v;b5c-b5d mb21.b3c,b22.b3c;b5f-b63 v;b66-b77 v;b82-b83 v;b85-b8a v;b8e-b90 v",
    "b92-b95 v;b99-b9a v;b9c v;b9e-b9f v;ba3-ba4 v;ba8-baa v;bae-bb9 v;bbe-bc2 v;bc6-bc8 v",
    "bca-bcd v;bd0 v;bd7 v;be6-bfa v;c00-c0c v;c0e-c10 v;c12-c28 v;c2a-c39 v;c3c-c44 v",
    "c46-c48 v;c4a-c4d v;c55-c56 v;c58-c5a v;c5c-c5d v;c60-c63 v;c66-c6f v;c77-c8c v",
    "c8e-c90 v;c92-ca8 v;caa-cb3 v;cb5-cb9 v;cbc-cc4 v;cc6-cc8 v;cca-ccd v;cd5-cd6 v",
    "cdc-cde v;ce0-ce3 v;ce6-cef v;cf1-cf3 v;d00-d0c v;d0e-d10 v;d12-d44 v;d46-d48 v",
    "d4a-d4f v;d54-d63 v;d66-d7f v;d81-d83 v;d85-d96 v;d9a-db1 v;db3-dbb v;dbd v;dc0-dc6 v",
    "dca v;dcf-dd4 v;dd6 v;dd8-ddf v;de6-def v;df2-df4 v;e01-e32 v;e33 me4d.e32;e34-e3a v",
    "e3f-e5b v;e81-e82 v;e84 v;e86-e8a v;e8c-ea3 v;ea5 v;ea7-eb2 v;eb3 mecd.eb2;eb4-ebd v",
    "ec0-ec4 v;ec6 v;ec8-ece v;ed0-ed9 v;edc-edd meab.e99,eab.ea1;ede-edf v;f00-f0b v",
    "f0c mf0b;f0d-f42 v;f43 mf42.fb7;f44-f47 v;f49-f4c v;f4d mf4c.fb7;f4e-f51 v;f52 mf51.fb7",
    "f53-f56 v;f57 mf56.fb7;f58-f5b v;f5c mf5b.fb7;f5d-f68 v;f69 mf40.fb5;f6a-f6c v;f71-f72 v",
    "f73 mf71.f72;f74 v;f75-f79 mf71.f74,fb2.f80,fb2.f71.f80,fb3.f80,fb3.f71.f80;f7a-f80 v",
    "f81 mf71.f80;f82-f92 v;f93 mf92.fb7;f94-f97 v;f99-f9c v;f9d mf9c.fb7;f9e-fa1 v",
    "fa2 mfa1.fb7;fa3-fa6 v;fa7 mfa6.fb7;fa8-fab v;fac mfab.fb7;fad-fb8 v;fb9 mf90.fb5",
    "fba-fbc v;fbe-fcc v;fce-fda v;1000-109f v;10a0-10c5 +1c60;10c7 m2d27;10cd m2d2d",
    "10d0-10fb v;10fc m10dc;10fd-115e v;115f-1160 i;1161-1248 v;124a-124d v;1250-1256 v",
    "1258 v;125a-125d v;1260-1288 v;128a-128d v;1290-12b0 v;12b2-12b5 v;12b8-12be v;12c0 v",
    "12c2-12c5 v;12c8-12d6 v;12d8-1310 v;1312-1315 v;1318-135a v;135d-137c v;1380-1399 v",
    "13a0-13f5 v;13f8-13fd -8;1400-167f v;1681-169c v;16a0-16f8 v;1700-1715 v;171f-1736 v",
    "1740-1753 v;1760-176c v;176e-1770 v;1772-1773 v;1780-17b3 v;17b4-17b5 i;17b6-17dd v",
    "17e0-17e9 v;17f0-17f9 v;1800-180a v;180b-180f i;1810-1819 v;1820-1878 v;1880-18aa v",
    "18b0-18f5 v;1900-191e v;1920-192b v;1930-193b v;1940 v;1944-196d v;1970-1974 v",
    "1980-19ab v;19b0-19c9 v;19d0-19da v;19de-1a1b v;1a1e-1a5e v;1a60-1a7c v;1a7f-1a89 v",
    "1a90-1a99 v;1aa0-1aad v;1ab0-1add v;1ae0-1aeb v;1b00-1b4c v;1b4e-1bf3 v;1bfc-1c37 v",
    "1c3b-1c49 v;1c4d-1c7f v;1c80-1c89 m432,434,43e,441,442,442,44a,463,a64b,1c8a;1c8a v",
    "1c90-1cba -bc0;1cbd-1cbf -bc0;1cc0-1cc7 v;1cd0-1cfa v;1d00-1d2b v;1d2c-1d2e m61,e6,62",
    "1d2f v;1d30-1d32 m64,65,1dd;1d33-1d3a -1ccc;1d3b v",
    "1d3c-1d4d m6f,223,70,72,74,75,77,61,250,251,1d02,62,64,65,259,25b,25c,67;1d4e v",
    "1d4f-1d62 m6b,6d,14b,6f,254,1d16,1d17,70,74,75,1d1d,26f,76,1d25,3b2,3b3,3b4,3c6,3c7,69",
    "1d63-1d6a m72,75,76,3b2,3b3,3c1,3c6,3c7;1d6b-1d77 v;1d78 m43d;1d79-1d9a v",
    "1d9b-1dad m252,63,255,f0,25c,66,25f,261,265,268,269,26a,1d7b,29d,26d,1d85,29f,271,270",
    "1dae-1db1 -1b3c;1db2-1dbf m278,282,283,1ab,289,28a,1d1c,28b,28c,7a,290,291,292,3b8",
    "1dc0-1dff v;1e00-1e95 a;1e96-1e99 v;1e9a-1e9b m61.2be,1e61;1e9c-1e9d v;1e9e mdf;1e9f v",
    "1ea0-1eff a;1f00-1f07 v;1f08-1f0f -8;1f10-1f15 v;1f18-1f1d -8;1f20-1f27 v;1f28-1f2f -8",
    "1f30-1f37 v;1f38-1f3f -8;1f40-1f45 v;1f48-1f4d -8;1f50-1f57 v;1f59 m1f51;1f5b m1f53",
    "1f5d m1f55;1f5f m1f57;1f60-1f67 v;1f68-1f6f -8;1f70 v;1f71 m3ac;1f72 v;1f73 m3ad;1f74 v",
    "1f75 m3ae;1f76 v;1f77 m3af;1f78 v;1f79 m3cc;1f7a v;1f7b m3cd;1f7c v;1f7d m3ce",
    "1f80-1f87 m1f00.3b9,1f01.3b9,1f02.3b9,1f03.3b9,1f04.3b9,1f05.3b9,1f06.3b9,1f07.3b9",
    "1f88-1f8f m1f00.3b9,1f01.3b9,1f02.3b9,1f03.3b9,1f04.3b9,1f05.3b9,1f06.3b9,1f07.3b9",
    "1f90-1f97 m1f20.3b9,1f21.3b9,1f22.3b9,1f23.3b9,1f24.3b9,1f25.3b9,1f26.3b9,1f27.3b9",
    "1f98-1f9f m1f20.3b9,1f21.3b9,1f22.3b9,1f23.3b9,1f24.3b9,1f25.3b9,1f26.3b9,1f27.3b9",
    "1fa0-1fa7 m1f60.3b9,1f61.3b9,1f62.3b9,1f63.3b9,1f64.3b9,1f65.3b9,1f66.3b9,1f67.3b9",
    "1fa8-1faf m1f60.3b9,1f61.3b9,1f62.3b9,1f63.3b9,1f64.3b9,1f65.3b9,1f66.3b9,1f67.3b9",
    "1fb0-1fb1 v;1fb2-1fb4 m1f70.3b9,3b1.3b9,3ac.3b9;1fb6 v",
    "1fb7-1fc1 m1fb6.3b9,1fb0,1fb1,1f70,3ac,3b1.3b9,20.313,3b9,20.313,20.342,20.308.342",
    "1fc2-1fc4 m1f74.3b9,3b7.3b9,3ae.3b9;1fc6 v",
    "1fc7-1fcf m1fc6.3b9,1f72,3ad,1f74,3ae,3b7.3b9,20.313.300,20.313.301,20.313.342",
    "1fd0-1fd2 v;1fd3 m390;1fd6-1fd7 v;1fd8-1fdb m1fd0,1fd1,1f76,3af",
    "1fdd-1fdf m20.314.300,20.314.301,20.314.342;1fe0-1fe2 v;1fe3 m3b0;1fe4-1fe7 v",
    "1fe8-1fef m1fe0,1fe1,1f7a,3cd,1fe5,20.308.300,20.308.301,60",
    "1ff2-1ff4 m1f7c.3b9,3c9.3b9,3ce.3b9;1ff6 v",
    "1ff7-1ffe m1ff6.3b9,1f78,3cc,1f7c,3ce,3c9.3b9,20.301,20.314",
    "2000-200a m20,20,20,20,20,20,20,20,20,20,20;200b i;200c-200d v;2010 v;2011 m2010",
    "2012-2016 v;2017 m20.333;2018-2023 v;2027 v;202f m20;2030-2032 v",
    "2033-2034 m2032.2032,2032.2032.2032;2035 v;2036-2037 m2035.2035,2035.2035.2035",
    "2038-203b v;203c m21.21;203d v;203e m20.305;203f-2046 v;2047-2049 m3f.3f,3f.21,21.3f",
    "204a-2056 v;2057 m2032.2032.2032.2032;2058-205e v;205f m20;2060-2064 i;206a-206f i",
    "2070-2071 m30,69;2074-2079 -2040;207a-207f m2b,2212,3d,28,29,6e;2080-2089 -2050",
    "208a-208e m2b,2212,3d,28,29;2090-2095 m61,65,6f,78,259,68;2096-2099 -202b",
    "209a-209c m70,73,74;20a0-20a7 v;20a8 m72.73;20a9-20c1 v;20d0-20f0 v",
    "2100-2103 m61.2f.63,61.2f.73,63,b0.63;2104 v;2105-2107 m63.2f.6f,63.2f.75,25b;2108 v",
    "2109-2113 mb0.66,67,68,68,68,68,127,69,69,6c,6c;2114 v;2115-2116 m6e,6e.6f;2117-2118 v",
    "2119-211d m70,71,72,72,72;211e-211f v;2120-2122 m73.6d,74.65.6c,74.6d;2123 v;2124 m7a",
    "2125 v;2126 m3c9;2127 v;2128 m7a;2129 v;212a-212d m6b,e5,62,63;212e v",
    "212f-2134 m65,65,66,214e,6d,6f;2135-2138 -1b65;2139 m69;213a v",
    "213b-2140 m66.61.78,3c0,3b3,3b3,3c0,2211;2141-2144 v;2145-2149 m64,64,65,69,6a",
    "214a-214f v",
    "2150-2155 m31.2044.37,31.2044.39,31.2044.31.30,31.2044.33,32.2044.33,31.2044.35",
    "2156-215b m32.2044.35,33.2044.35,34.2044.35,31.2044.36,35.2044.36,31.2044.38",
    "215c-2165 m33.2044.38,35.2044.38,37.2044.38,31.2044,69,69.69,69.69.69,69.76,76,76.69",
    "2166-2172 m76.69.69,76.69.69.69,69.78,78,78.69,78.69.69,6c,63,64,6d,69,69.69,69.69.69",
    "2173-217f m69.76,76,76.69,76.69.69,76.69.69.69,69.78,78,78.69,78.69.69,6c,63,64,6d",
    "2180-2182 v;2183 m2184;2184-2188 v;2189 m30.2044.33;218a-218b v;2190-222b v",
    "222c-222d m222b.222b,222b.222b.222b;222e v;222f-2230 m222e.222e,222e.222e.222e",
    "2231-2328 v;2329-232a +cdf;232b-2429 v;2440-244a v;2460-2468 -242f",
    "2469-2474 m31.30,31.31,31.32,31.33,31.34,31.35,31.36,31.37,31.38,31.39,32.30,28.31.29",
    "2475-247c m28.32.29,28.33.29,28.34.29,28.35.29,28.36.29,28.37.29,28.38.29,28.39.29",
    "247d-2482 m28.31.30.29,28.31.31.29,28.31.32.29,28.31.33.29,28.31.34.29,28.31.35.29",
    "2483-2487 m28.31.36.29,28.31.37.29,28.31.38.29,28.31.39.29,28.32.30.29",
    "249c-24a3 m28.61.29,28.62.29,28.63.29,28.64.29,28.65.29,28.66.29,28.67.29,28.68.29",
    "24a4-24ab m28.69.29,28.6a.29,28.6b.29,28.6c.29,28.6d.29,28.6e.29,28.6f.29,28.70.29",
    "24ac-24b3 m28.71.29,28.72.29,28.73.29,28.74.29,28.75.29,28.76.29,28.77.29,28.78.29",
    "24b4-24b5 m28.79.29,28.7a.29;24b6-24cf -2455;24d0-24e9 -246f;24ea m30;24eb-2a0b v",
    "2a0c m222b.222b.222b.222b;2a0d-2a73 v;2a74-2a76 m3a.3a.3d,3d.3d,3d.3d.3d;2a77-2adb v",
    "2adc m2add.338;2add-2b73 v;2b76-2bff v;2c00-2c2f +30;2c30-2c5f v;2c60 m2c61;2c61 v",
    "2c62-2c64 m26b,1d7d,27d;2c65-2c66 v;2c67-2c6c a;2c6d-2c70 m251,271,250,252;2c71 v",
    "2c72 m2c73;2c73-2c74 v;2c75 m2c76;2c76-2c7b v;2c7c-2c7f m6a,76,23f,240;2c80-2ce3 a",
    "2ce4-2cea v;2ceb-2cee a;2cef-2cf1 v;2cf2 m2cf3;2cf3 v;2cf9-2d25 v;2d27 v;2d2d v",
    "2d30-2d67 v;2d6f m2d61;2d70 v;2d7f-2d96 v;2da0-2da6 v;2da8-2dae v;2db0-2db6 v",
    "2db8-2dbe v;2dc0-2dc6 v;2dc8-2dce v;2dd0-2dd6 v;2dd8-2dde v;2de0-2e5d v;2e80-2e99 v",
    "2e9b-2e9e v;2e9f m6bcd;2ea0-2ef2 v;2ef3 m9f9f",
    "2f00-2f0e m4e00,4e28,4e36,4e3f,4e59,4e85,4e8c,4ea0,4eba,513f,5165,516b,5182,5196,51ab",
    "2f0f-2f1d m51e0,51f5,5200,529b,52f9,5315,531a,5338,5341,535c,5369,5382,53b6,53c8,53e3",
    "2f1e-2f2c m56d7,571f,58eb,5902,590a,5915,5927,5973,5b50,5b80,5bf8,5c0f,5c22,5c38,5c6e",
    "2f2d-2f3b m5c71,5ddb,5de5,5df1,5dfe,5e72,5e7a,5e7f,5ef4,5efe,5f0b,5f13,5f50,5f61,5f73",
    "2f3c-2f4a m5fc3,6208,6236,624b,652f,6534,6587,6597,65a4,65b9,65e0,65e5,66f0,6708,6728",
    "2f4b-2f59 m6b20,6b62,6b79,6bb3,6bcb,6bd4,6bdb,6c0f,6c14,6c34,706b,722a,7236,723b,723f",
    "2f5a-2f68 m7247,7259,725b,72ac,7384,7389,74dc,74e6,7518,751f,7528,7530,758b,7592,7676",
    "2f69-2f77 m767d,76ae,76bf,76ee,77db,77e2,77f3,793a,79b8,79be,7a74,7acb,7af9,7c73,7cf8",
    "2f78-2f86 m7f36,7f51,7f8a,7fbd,8001,800c,8012,8033,807f,8089,81e3,81ea,81f3,81fc,820c",
    "2f87-2f95 m821b,821f,826e,8272,8278,864d,866b,8840,884c,8863,897e,898b,89d2,8a00,8c37",
    "2f96-2fa4 m8c46,8c55,8c78,8c9d,8d64,8d70,8db3,8eab,8eca,8f9b,8fb0,8fb5,9091,9149,91c6",
    "2fa5-2fb3 m91cc,91d1,9577,9580,961c,96b6,96b9,96e8,9751,975e,9762,9769,97cb,97ed,97f3",
    "2fb4-2fc2 m9801,98a8,98db,98df,9996,9999,99ac,9aa8,9ad8,9adf,9b25,9b2f,9b32,9b3c,9b5a",
    "2fc3-2fd1 m9ce5,9e75,9e7f,9ea5,9ebb,9ec3,9ecd,9ed1,9ef9,9efd,9f0e,9f13,9f20,9f3b,9f4a",
    "2fd2-2fd5 m9f52,9f8d,9f9c,9fa0;3000 m20;3001 v;3002 m2e;3003-3035 v;3036 m3012;3037 v",
    "3038-303a m5341,5344,5345;303b-303f v;3041-3096 v;3099-309a v;309b-309c m20.3099,20.309a",
    "309d-309e v;309f m3088.308a;30a0-30fe v;30ff m30b3.30c8;3105-312f v",
    "3131-3139 m1100,1101,11aa,1102,11ac,11ad,1103,1104,1105;313a-313f -1f8a",
    "3140-3144 m111a,1106,1107,1108,1121;3145-314e -203c;314f-3163 -1fee;3164 i",
    "3165-3166 -2051",
    "3167-3175 m11c7,11c8,11cc,11ce,11d3,11d7,11d9,111c,11dd,11df,111d,111e,1120,1122,1123",
    "3176-3177 m1127,1129;3178-317c -204d",
    "317d-318b m1132,1136,1140,1147,114c,11f1,11f2,1157,1158,1159,1184,1185,1188,1191,1192",
    "318c-318e m1194,119e,11a1;3190-3191 v",
    "3192-319f m4e00,4e8c,4e09,56db,4e0a,4e2d,4e0b,7532,4e59,4e19,4e01,5929,5730,4eba",
    "31a0-31e5 v;31f0-31ff v",
    "3200-3205 m28.1100.29,28.1102.29,28.1103.29,28.1105.29,28.1106.29,28.1107.29",
    "3206-320b m28.1109.29,28.110b.29,28.110c.29,28.110e.29,28.110f.29,28.1110.29",
    "320c-3211 m28.1111.29,28.1112.29,28.ac00.29,28.b098.29,28.b2e4.29,28.b77c.29",
    "3212-3217 m28.b9c8.29,28.bc14.29,28.c0ac.29,28.c544.29,28.c790.29,28.cc28.29",
    "3218-321d m28.ce74.29,28.d0c0.29,28.d30c.29,28.d558.29,28.c8fc.29,28.c624.c804.29",
    "321e m28.c624.d6c4.29",
    "3220-3225 m28.4e00.29,28.4e8c.29,28.4e09.29,28.56db.29,28.4e94.29,28.516d.29",
    "3226-322b m28.4e03.29,28.516b.29,28.4e5d.29,28.5341.29,28.6708.29,28.706b.29",
    "322c-3231 m28.6c34.29,28.6728.29,28.91d1.29,28.571f.29,28.65e5.29,28.682a.29",
    "3232-3237 m28.6709.29,28.793e.29,28.540d.29,28.7279.29,28.8ca1.29,28.795d.29",
    "3238-323d m28.52b4.29,28.4ee3.29,28.547c.29,28.5b66.29,28.76e3.29,28.4f01.29",
    "323e-3245 m28.8cc7.29,28.5354.29,28.796d.29,28.4f11.29,28.81ea.29,28.81f3.29,554f,5e7c",
    "3246-3247 m6587,7b8f;3248-324f v",
    "3250-325b m70.74.65,32.31,32.32,32.33,32.34,32.35,32.36,32.37,32.38,32.39,33.30,33.31",
    "325c-3268 m33.32,33.33,33.34,33.35,1100,1102,1103,1105,1106,1107,1109,110b,110c",
    "3269-326d -215b",
    "326e-327b mac00,b098,b2e4,b77c,b9c8,bc14,c0ac,c544,c790,cc28,ce74,d0c0,d30c,d558",
    "327c-327e mcc38.ace0,c8fc.c758,c6b0;327f v",
    "3280-328e m4e00,4e8c,4e09,56db,4e94,516d,4e03,516b,4e5d,5341,6708,706b,6c34,6728,91d1",
    "328f-329d m571f,65e5,682a,6709,793e,540d,7279,8ca1,795d,52b4,79d8,7537,5973,9069,512a",
    "329e-32ac m5370,6ce8,9805,4f11,5199,6b63,4e0a,4e2d,4e0b,5de6,53f3,533b,5b97,5b66,76e3",
    "32ad-32b9 m4f01,8cc7,5354,591c,33.36,33.37,33.38,33.39,34.30,34.31,34.32,34.33,34.34",
    "32ba-32c4 m34.35,34.36,34.37,34.38,34.39,35.30,31.6708,32.6708,33.6708,34.6708,35.6708",
    "32c5-32cc m36.6708,37.6708,38.6708,39.6708,31.30.6708,31.31.6708,31.32.6708,68.67",
    "32cd-32d9 m65.72.67,65.76,6c.74.64,30a2,30a4,30a6,30a8,30aa,30ab,30ad,30af,30b1,30b3",
    "32da-32e3 m30b5,30b7,30b9,30bb,30bd,30bf,30c1,30c4,30c6,30c8;32e4-32e9 -21a",
    "32ea-32ed m30d2,30d5,30d8,30db;32ee-32f2 -210;32f3-32f4 m30e4,30e6;32f5-32fa -20d",
    "32fb-32fe -20c",
    "32ff-3302 m4ee4.548c,30a2.30d1.30fc.30c8,30a2.30eb.30d5.30a1,30a2.30f3.30da.30a2",
    "3303-3306 m30a2.30fc.30eb,30a4.30cb.30f3.30b0,30a4.30f3.30c1,30a6.30a9.30f3",
    "3307-330a m30a8.30b9.30af.30fc.30c9,30a8.30fc.30ab.30fc,30aa.30f3.30b9,30aa.30fc.30e0",
    "330b-330e m30ab.30a4.30ea,30ab.30e9.30c3.30c8,30ab.30ed.30ea.30fc,30ac.30ed.30f3",
    "330f-3312 m30ac.30f3.30de,30ae.30ac,30ae.30cb.30fc,30ad.30e5.30ea.30fc",
    "3313-3315 m30ae.30eb.30c0.30fc,30ad.30ed,30ad.30ed.30b0.30e9.30e0",
    "3316-3318 m30ad.30ed.30e1.30fc.30c8.30eb,30ad.30ed.30ef.30c3.30c8,30b0.30e9.30e0",
    "3319-331b m30b0.30e9.30e0.30c8.30f3,30af.30eb.30bc.30a4.30ed,30af.30ed.30fc.30cd",
    "331c-331f m30b1.30fc.30b9,30b3.30eb.30ca,30b3.30fc.30dd,30b5.30a4.30af.30eb",
    "3320-3323 m30b5.30f3.30c1.30fc.30e0,30b7.30ea.30f3.30b0,30bb.30f3.30c1,30bb.30f3.30c8",
    "3324-3329 m30c0.30fc.30b9,30c7.30b7,30c9.30eb,30c8.30f3,30ca.30ce,30ce.30c3.30c8",
    "332a-332d m30cf.30a4.30c4,30d1.30fc.30bb.30f3.30c8,30d1.30fc.30c4,30d0.30fc.30ec.30eb",
    "332e-3331 m30d4.30a2.30b9.30c8.30eb,30d4.30af.30eb,30d4.30b3,30d3.30eb",
    "3332-3334 m30d5.30a1.30e9.30c3.30c9,30d5.30a3.30fc.30c8,30d6.30c3.30b7.30a7.30eb",
    "3335-3338 m30d5.30e9.30f3,30d8.30af.30bf.30fc.30eb,30da.30bd,30da.30cb.30d2",
    "3339-333c m30d8.30eb.30c4,30da.30f3.30b9,30da.30fc.30b8,30d9.30fc.30bf",
    "333d-3341 m30dd.30a4.30f3.30c8,30dc.30eb.30c8,30db.30f3,30dd.30f3.30c9,30db.30fc.30eb",
    "3342-3345 m30db.30fc.30f3,30de.30a4.30af.30ed,30de.30a4.30eb,30de.30c3.30cf",
    "3346-3349 m30de.30eb.30af,30de.30f3.30b7.30e7.30f3,30df.30af.30ed.30f3,30df.30ea",
    "334a-334d m30df.30ea.30d0.30fc.30eb,30e1.30ac,30e1.30ac.30c8.30f3,30e1.30fc.30c8.30eb",
    "334e-3352 m30e4.30fc.30c9,30e4.30fc.30eb,30e6.30a2.30f3,30ea.30c3.30c8.30eb,30ea.30e9",
    "3353-3356 m30eb.30d4.30fc,30eb.30fc.30d6.30eb,30ec.30e0,30ec.30f3.30c8.30b2.30f3",
    "3357-335e m30ef.30c3.30c8,30.70b9,31.70b9,32.70b9,33.70b9,34.70b9,35.70b9,36.70b9",
    "335f-3365 m37.70b9,38.70b9,39.70b9,31.30.70b9,31.31.70b9,31.32.70b9,31.33.70b9",
    "3366-336b m31.34.70b9,31.35.70b9,31.36.70b9,31.37.70b9,31.38.70b9,31.39.70b9",
    "336c-3373 m32.30.70b9,32.31.70b9,32.32.70b9,32.33.70b9,32.34.70b9,68.70.61,64.61,61.75",
    "3374-337c m62.61.72,6f.76,70.63,64.6d,64.6d.32,64.6d.33,69.75,5e73.6210,662d.548c",
    "337d-3384 m5927.6b63,660e.6cbb,682a.5f0f.4f1a.793e,70.61,6e.61,3bc.61,6d.61,6b.61",
    "3385-338e m6b.62,6d.62,67.62,63.61.6c,6b.63.61.6c,70.66,6e.66,3bc.66,3bc.67,6d.67",
    "338f-3398 m6b.67,68.7a,6b.68.7a,6d.68.7a,67.68.7a,74.68.7a,3bc.6c,6d.6c,64.6c,6b.6c",
    "3399-33a2 m66.6d,6e.6d,3bc.6d,6d.6d,63.6d,6b.6d,6d.6d.32,63.6d.32,6d.32,6b.6d.32",
    "33a3-33aa m6d.6d.33,63.6d.33,6d.33,6b.6d.33,6d.2215.73,6d.2215.73.32,70.61,6b.70.61",
    "33ab-33b1 m6d.70.61,67.70.61,72.61.64,72.61.64.2215.73,72.61.64.2215.73.32,70.73,6e.73",
    "33b2-33bd m3bc.73,6d.73,70.76,6e.76,3bc.76,6d.76,6b.76,6d.76,70.77,6e.77,3bc.77,6d.77",
    "33be-33c1 m6b.77,6d.77,6b.3c9,6d.3c9;33c3-33c6 m62.71,63.63,63.64,63.2215.6b.67",
    "33c8-33d3 m64.62,67.79,68.61,68.70,69.6e,6b.6b,6b.6d,6b.74,6c.6d,6c.6e,6c.6f.67,6c.78",
    "33d4-33d7 m6d.62,6d.69.6c,6d.6f.6c,70.68",
    "33d9-33e1 m70.70.6d,70.72,73.72,73.76,77.62,76.2215.6d,61.2215.6d,31.65e5,32.65e5",
    "33e2-33e9 m33.65e5,34.65e5,35.65e5,36.65e5,37.65e5,38.65e5,39.65e5,31.30.65e5",
    "33ea-33ef m31.31.65e5,31.32.65e5,31.33.65e5,31.34.65e5,31.35.65e5,31.36.65e5",
    "33f0-33f5 m31.37.65e5,31.38.65e5,31.39.65e5,32.30.65e5,32.31.65e5,32.32.65e5",
    "33f6-33fb m32.33.65e5,32.34.65e5,32.35.65e5,32.36.65e5,32.37.65e5,32.38.65e5",
    "33fc-33ff m32.39.65e5,33.30.65e5,33.31.65e5,67.61.6c;3400-a48c v;a490-a4c6 v;a4d0-a62b v",
    "a640-a66d a;a66e-a67f v;a680-a69b a;a69c-a69d m44a,44c;a69e-a6f7 v;a700-a721 v",
    "a722-a72f a;a730-a731 v;a732-a76f a;a770 ma76f;a771-a778 v;a779-a77c a;a77d m1d79",
    "a77e-a787 a;a788-a78a v;a78b ma78c;a78c v;a78d m265;a78e-a78f v;a790-a793 a;a794-a795 v",
    "a796-a7a9 a;a7aa-a7ae m266,25c,261,26c,26a;a7af v;a7b0-a7b3 m29e,287,29d,ab53",
    "a7b4-a7c3 a;a7c4-a7c6 ma794,282,1d8e;a7c7-a7ca a;a7cb m264;a7cc-a7db a;a7dc m19b",
    "a7f1-a7f5 m73,63,66,71,a7f6;a7f6-a7f7 v;a7f8-a7f9 m127,153;a7fa-a82c v;a830-a839 v",
    "a840-a877 v;a880-a8c5 v;a8ce-a8d9 v;a8e0-a953 v;a95f-a97c v;a980-a9cd v;a9cf-a9d9 v",
    "a9de-a9fe v;aa00-aa36 v;aa40-aa4d v;aa50-aa59 v;aa5c-aac2 v;aadb-aaf6 v;ab01-ab06 v",
    "ab09-ab0e v;ab11-ab16 v;ab20-ab26 v;ab28-ab2e v;ab30-ab5b v",
    "ab5c-ab5f ma727,ab37,26b,ab52;ab60-ab68 v;ab69 m28d;ab6a-ab6b v;ab70-abbf -97d0",
    "abc0-abed v;abf0-abf9 v;ac00-d7a3 v;d7b0-d7c6 v;d7cb-d7fb v",
    "f900-f90e m8c48,66f4,8eca,8cc8,6ed1,4e32,53e5,9f9c,9f9c,5951,91d1,5587,5948,61f6,7669",
    "f90f-f91d m7f85,863f,87ba,88f8,908f,6a02,6d1b,70d9,73de,843d,916a,99f1,4e82,5375,6b04",
    "f91e-f92c m721b,862d,9e1e,5d50,6feb,85cd,8964,62c9,81d8,881f,5eca,6717,6d6a,72fc,90ce",
    "f92d-f93b m4f86,51b7,52de,64c4,6ad3,7210,76e7,8001,8606,865c,8def,9732,9b6f,9dfa,788c",
    "f93c-f94a m797f,7da0,83c9,9304,9e7f,8ad6,58df,5f04,7c60,807e,7262,78ca,8cc2,96f7,58d8",
    "f94b-f959 m5c62,6a13,6dda,6f0f,7d2f,7e37,964b,52d2,808b,51dc,51cc,7a1c,7dbe,83f1,9675",
    "f95a-f968 m8b80,62cf,6a02,8afe,4e39,5be7,6012,7387,7570,5317,78fb,4fbf,5fa9,4e0d,6ccc",
    "f969-f977 m6578,7d22,53c3,585e,7701,8449,8aaa,6bba,8fb0,6c88,62fe,82e5,63a0,7565,4eae",
    "f978-f986 m5169,51c9,6881,7ce7,826f,8ad2,91cf,52f5,5442,5973,5eec,65c5,6ffe,792a,95ad",
    "f987-f995 m9a6a,9e97,9ece,529b,66c6,6b77,8f62,5e74,6190,6200,649a,6f23,7149,7489,79ca",
    "f996-f9a4 m7df4,806f,8f26,84ee,9023,934a,5217,52a3,54bd,70c8,88c2,8aaa,5ec9,5ff5,637b",
    "f9a5-f9b3 m6bae,7c3e,7375,4ee4,56f9,5be7,5dba,601c,73b2,7469,7f9a,8046,9234,96f6,9748",
    "f9b4-f9c2 m9818,4f8b,79ae,91b4,96b8,60e1,4e86,50da,5bee,5c3f,6599,6a02,71ce,7642,84fc",
    "f9c3-f9d1 m907c,9f8d,6688,962e,5289,677b,67f3,6d41,6e9c,7409,7559,786b,7d10,985e,516d",
    "f9d2-f9e0 m622e,9678,502b,5d19,6dea,8f2a,5f8b,6144,6817,7387,9686,5229,540f,5c65,6613",
    "f9e1-f9ef m674e,68a8,6ce5,7406,75e2,7f79,88cf,88e1,91cc,96e2,533f,6eba,541d,71d0,7498",
    "f9f0-f9fe m85fa,96a3,9c57,9e9f,6797,6dcb,81e8,7acb,7b20,7c92,72c0,7099,8b58,4ec0,8336",
    "f9ff-fa0d m523a,5207,5ea6,62d3,7cd6,5b85,6d1e,66b4,8f3b,884c,964d,898b,5ed3,5140,55c0",
    "fa0e-fa0f v;fa10 m585a;fa11 v;fa12 m6674;fa13-fa14 v",
    "fa15-fa1e m51de,732a,76ca,793c,795e,7965,798f,9756,7cbe,7fbd;fa1f v;fa20 m8612;fa21 v",
    "fa22 m8af8;fa23-fa24 v;fa25-fa26 m9038,90fd;fa27-fa29 v",
    "fa2a-fa38 m98ef,98fc,9928,9db4,90de,96b7,4fae,50e7,514d,52c9,52e4,5351,559d,5606,5668",
    "fa39-fa47 m5840,58a8,5c64,5c6e,6094,6168,618e,61f2,654f,65e2,6691,6885,6d77,6e1a,6f22",
    "fa48-fa56 m716e,722b,7422,7891,793e,7949,7948,7950,7956,795d,798d,798e,7a40,7a81,7bc0",
    "fa57-fa65 m7df4,7e09,7e41,7f72,8005,81ed,8279,8279,8457,8910,8996,8b01,8b39,8cd3,8d08",
    "fa66-fa6d m8fb6,9038,96e3,97ff,983b,6075,242ee,8218",
    "fa70-fa7e m4e26,51b5,5168,4f80,5145,5180,52c7,52fa,559d,5555,5599,55e2,585a,58b3,5944",
    "fa7f-fa8d m5954,5a62,5b28,5ed2,5ed9,5f69,5fad,60d8,614e,6108,618e,6160,61f2,6234,63c4",
    "fa8e-fa9c m641c,6452,6556,6674,6717,671b,6756,6b79,6bba,6d41,6edb,6ecb,6f22,701e,716e",
    "fa9d-faab m77a7,7235,72af,732a,7471,7506,753b,761d,761f,76ca,76db,76f4,774a,7740,78cc",
    "faac-faba m7ab1,7bc0,7c7b,7d5b,7df4,7f3e,8005,8352,83ef,8779,8941,8986,8996,8abf,8af8",
    "fabb-fac9 m8acb,8b01,8afe,8aed,8b39,8b8a,8d08,8f38,9072,9199,9276,967c,96e3,9756,97db",
    "faca-fad7 m97ff,980b,983b,9b12,9f9c,2284a,22844,233d5,3b9d,4018,4039,25249,25cd0,27ed3",
    "fad8-fad9 m9f43,9f8e;fb00-fb06 m66.66,66.69,66.6c,66.66.69,66.66.6c,73.74,73.74",
    "fb13-fb17 m574.576,574.565,574.56b,57e.576,574.56d;fb1d m5d9.5b4;fb1e v",
    "fb1f-fb2c m5f2.5b7,5e2,5d0,5d3,5d4,5db,5dc,5dd,5e8,5ea,2b,5e9.5c1,5e9.5c2,5e9.5bc.5c1",
    "fb2d-fb35 m5e9.5bc.5c2,5d0.5b7,5d0.5b8,5d0.5bc,5d1.5bc,5d2.5bc,5d3.5bc,5d4.5bc,5d5.5bc",
    "fb36 m5d6.5bc;fb38-fb3c m5d8.5bc,5d9.5bc,5da.5bc,5db.5bc,5dc.5bc;fb3e m5de.5bc",
    "fb40-fb41 m5e0.5bc,5e1.5bc;fb43-fb44 m5e3.5bc,5e4.5bc",
    "fb46-fb4e m5e6.5bc,5e7.5bc,5e8.5bc,5e9.5bc,5ea.5bc,5d5.5b9,5d1.5bf,5db.5bf,5e4.5bf",
    "fb4f-fb60 m5d0.5dc,671,671,67b,67b,67b,67b,67e,67e,67e,67e,680,680,680,680,67a,67a,67a",
    "fb61-fb73 m67a,67f,67f,67f,67f,679,679,679,679,6a4,6a4,6a4,6a4,6a6,6a6,6a6,6a6,684,684",
    "fb74-fb86 m684,684,683,683,683,683,686,686,686,686,687,687,687,687,68d,68d,68c,68c,68e",
    "fb87-fb99 m68e,688,688,698,698,691,691,6a9,6a9,6a9,6a9,6af,6af,6af,6af,6b3,6b3,6b3,6b3",
    "fb9a-fbac m6b1,6b1,6b1,6b1,6ba,6ba,6bb,6bb,6bb,6bb,6c0,6c0,6c1,6c1,6c1,6c1,6be,6be,6be",
    "fbad-fbb1 m6be,6d2,6d2,6d3,6d3;fbb2-fbd2 v",
    "fbd3-fbe4 m6ad,6ad,6ad,6ad,6c7,6c7,6c6,6c6,6c8,6c8,6c7.674,6cb,6cb,6c5,6c5,6c9,6c9,6d0",
    "fbe5-fbf0 m6d0,6d0,6d0,649,649,626.627,626.627,626.6d5,626.6d5,626.648,626.648,626.6c7",
    "fbf1-fbf9 m626.6c7,626.6c6,626.6c6,626.6c8,626.6c8,626.6d0,626.6d0,626.6d0,626.649",
    "fbfa-fc04 m626.649,626.649,6cc,6cc,6cc,6cc,626.62c,626.62d,626.645,626.649,626.64a",
    "fc05-fc0d m628.62c,628.62d,628.62e,628.645,628.649,628.64a,62a.62c,62a.62d,62a.62e",
    "fc0e-fc16 m62a.645,62a.649,62a.64a,62b.62c,62b.645,62b.649,62b.64a,62c.62d,62c.645",
    "fc17-fc1f m62d.62c,62d.645,62e.62c,62e.62d,62e.645,633.62c,633.62d,633.62e,633.645",
    "fc20-fc28 m635.62d,635.645,636.62c,636.62d,636.62e,636.645,637.62d,637.645,638.645",
    "fc29-fc31 m639.62c,639.645,63a.62c,63a.645,641.62c,641.62d,641.62e,641.645,641.649",
    "fc32-fc3a m641.64a,642.62d,642.645,642.649,642.64a,643.627,643.62c,643.62d,643.62e",
    "fc3b-fc43 m643.644,643.645,643.649,643.64a,644.62c,644.62d,644.62e,644.645,644.649",
    "fc44-fc4c m644.64a,645.62c,645.62d,645.62e,645.645,645.649,645.64a,646.62c,646.62d",
    "fc4d-fc55 m646.62e,646.645,646.649,646.64a,647.62c,647.645,647.649,647.64a,64a.62c",
    "fc56-fc5e m64a.62d,64a.62e,64a.645,64a.649,64a.64a,630.670,631.670,649.670,20.64c.651",
    "fc5f-fc65 m20.64d.651,20.64e.651,20.64f.651,20.650.651,20.651.670,626.631,626.632",
    "fc66-fc6e m626.645,626.646,626.649,626.64a,628.631,628.632,628.645,628.646,628.649",
    "fc6f-fc77 m628.64a,62a.631,62a.632,62a.645,62a.646,62a.649,62a.64a,62b.631,62b.632",
    "fc78-fc80 m62b.645,62b.646,62b.649,62b.64a,641.649,641.64a,642.649,642.64a,643.627",
    "fc81-fc89 m643.644,643.645,643.649,643.64a,644.645,644.649,644.64a,645.627,645.645",
    "fc8a-fc92 m646.631,646.632,646.645,646.646,646.649,646.64a,649.670,64a.631,64a.632",
    "fc93-fc9b m64a.645,64a.646,64a.649,64a.64a,626.62c,626.62d,626.62e,626.645,626.647",
    "fc9c-fca4 m628.62c,628.62d,628.62e,628.645,628.647,62a.62c,62a.62d,62a.62e,62a.645",
    "fca5-fcad m62a.647,62b.645,62c.62d,62c.645,62d.62c,62d.645,62e.62c,62e.645,633.62c",
    "fcae-fcb6 m633.62d,633.62e,633.645,635.62d,635.62e,635.645,636.62c,636.62d,636.62e",
    "fcb7-fcbf m636.645,637.62d,638.645,639.62c,639.645,63a.62c,63a.645,641.62c,641.62d",
    "fcc0-fcc8 m641.62e,641.645,642.62d,642.645,643.62c,643.62d,643.62e,643.644,643.645",
    "fcc9-fcd1 m644.62c,644.62d,644.62e,644.645,644.647,645.62c,645.62d,645.62e,645.645",
    "fcd2-fcda m646.62c,646.62d,646.62e,646.645,646.647,647.62c,647.645,647.670,64a.62c",
    "fcdb-fce3 m64a.62d,64a.62e,64a.645,64a.647,626.645,626.647,628.645,628.647,62a.645",
    "fce4-fcec m62a.647,62b.645,62b.647,633.645,633.647,634.645,634.647,643.644,643.645",
    "fced-fcf4 m644.645,646.645,646.647,64a.645,64a.647,640.64e.651,640.64f.651,640.650.651",
    "fcf5-fcfd m637.649,637.64a,639.649,639.64a,63a.649,63a.64a,633.649,633.64a,634.649",
    "fcfe-fd06 m634.64a,62d.649,62d.64a,62c.649,62c.64a,62e.649,62e.64a,635.649,635.64a",
    "fd07-fd0f m636.649,636.64a,634.62c,634.62d,634.62e,634.645,634.631,633.631,635.631",
    "fd10-fd18 m636.631,637.649,637.64a,639.649,639.64a,63a.649,63a.64a,633.649,633.64a",
    "fd19-fd21 m634.649,634.64a,62d.649,62d.64a,62c.649,62c.64a,62e.649,62e.64a,635.649",
    "fd22-fd2a m635.64a,636.649,636.64a,634.62c,634.62d,634.62e,634.645,634.631,633.631",
    "fd2b-fd33 m635.631,636.631,634.62c,634.62d,634.62e,634.645,633.647,634.647,637.645",
    "fd34-fd3c m633.62c,633.62d,633.62e,634.62c,634.62d,634.62e,637.645,638.645,627.64b",
    "fd3d m627.64b;fd3e-fd4f v",
    "fd50-fd55 m62a.62c.645,62a.62d.62c,62a.62d.62c,62a.62d.645,62a.62e.645,62a.645.62c",
    "fd56-fd5b m62a.645.62d,62a.645.62e,62c.645.62d,62c.645.62d,62d.645.64a,62d.645.649",
    "fd5c-fd61 m633.62d.62c,633.62c.62d,633.62c.649,633.645.62d,633.645.62d,633.645.62c",
    "fd62-fd67 m633.645.645,633.645.645,635.62d.62d,635.62d.62d,635.645.645,634.62d.645",
    "fd68-fd6d m634.62d.645,634.62c.64a,634.645.62e,634.645.62e,634.645.645,634.645.645",
    "fd6e-fd73 m636.62d.649,636.62e.645,636.62e.645,637.645.62d,637.645.62d,637.645.645",
    "fd74-fd79 m637.645.64a,639.62c.645,639.645.645,639.645.645,639.645.649,63a.645.645",
    "fd7a-fd7f m63a.645.64a,63a.645.649,641.62e.645,641.62e.645,642.645.62d,642.645.645",
    "fd80-fd85 m644.62d.645,644.62d.64a,644.62d.649,644.62c.62c,644.62c.62c,644.62e.645",
    "fd86-fd8b m644.62e.645,644.645.62d,644.645.62d,645.62d.62c,645.62d.645,645.62d.64a",
    "fd8c-fd8f m645.62c.62d,645.62c.645,645.62e.62c,645.62e.645;fd90-fd91 v",
    "fd92-fd97 m645.62c.62e,647.645.62c,647.645.645,646.62d.645,646.62d.649,646.62c.645",
    "fd98-fd9d m646.62c.645,646.62c.649,646.645.64a,646.645.649,64a.645.645,64a.645.645",
    "fd9e-fda3 m628.62e.64a,62a.62c.64a,62a.62c.649,62a.62e.64a,62a.62e.649,62a.645.64a",
    "fda4-fda9 m62a.645.649,62c.645.64a,62c.62d.649,62c.645.649,633.62e.649,635.62d.64a",
    "fdaa-fdaf m634.62d.64a,636.62d.64a,644.62c.64a,644.645.64a,64a.62d.64a,64a.62c.64a",
    "fdb0-fdb5 m64a.645.64a,645.645.64a,642.645.64a,646.62d.64a,642.645.62d,644.62d.645",
    "fdb6-fdbb m639.645.64a,643.645.64a,646.62c.62d,645.62e.64a,644.62c.645,643.645.645",
    "fdbc-fdc1 m644.62c.645,646.62c.62d,62c.62d.64a,62d.62c.64a,645.62c.64a,641.645.64a",
    "fdc2-fdc7 m628.62d.64a,643.645.645,639.62c.645,635.645.645,633.62e.64a,646.62c.64a",
    "fdc8-fdcf v",
    "fdf0-fdf4 m635.644.6d2,642.644.6d2,627.644.644.647,627.643.628.631,645.62d.645.62f",
    "fdf5-fdf9 m635.644.639.645,631.633.648.644,639.644.64a.647,648.633.644.645,635.644.649",
    "fdfa m635.644.649.20.627.644.644.647.20.639.644.64a.647.20.648.633.644.645",
    "fdfb-fdfc m62c.644.20.62c.644.627.644.647,631.6cc.627.644;fdfd-fdff v;fe00-fe0f i",
    "fe10-fe11 m2c,3001;fe13-fe18 m3a,3b,21,3f,3016,3017;fe20-fe2f v",
    "fe31-fe40 m2014,2013,5f,5f,28,29,7b,7d,3014,3015,3010,3011,300a,300b,3008,3009",
    "fe41-fe44 -ce35;fe45-fe46 v",
    "fe47-fe51 m5b,5d,20.305,20.305,20.305,20.305,5f,5f,5f,2c,3001",
    "fe54-fe66 m3b,3a,3f,21,2014,28,29,7b,7d,3014,3015,23,26,2a,2b,2d,3c,3e,3d",
    "fe68-fe6b m5c,24,25,40;fe70-fe72 m20.64b,640.64b,20.64c;fe73 v;fe74 m20.64d",
    "fe76-fe7f m20.64e,640.64e,20.64f,640.64f,20.650,640.650,20.651,640.651,20.652,640.652",
    "fe80-fe92 m621,622,622,623,623,624,624,625,625,626,626,626,626,627,627,628,628,628,628",
    "fe93-fea5 m629,629,62a,62a,62a,62a,62b,62b,62b,62b,62c,62c,62c,62c,62d,62d,62d,62d,62e",
    "fea6-feb8 m62e,62e,62e,62f,62f,630,630,631,631,632,632,633,633,633,633,634,634,634,634",
    "feb9-fecb m635,635,635,635,636,636,636,636,637,637,637,637,638,638,638,638,639,639,639",
    "fecc-fede m639,63a,63a,63a,63a,641,641,641,641,642,642,642,642,643,643,643,643,644,644",
    "fedf-fef1 m644,644,645,645,645,645,646,646,646,646,647,647,647,647,648,648,649,649,64a",
    "fef2-fefc m64a,64a,64a,644.622,644.622,644.623,644.623,644.625,644.625,644.627,644.627",
    "feff i;ff01-ff20 -fee0;ff21-ff3a -fec0;ff3b-ff5e -fee0",
    "ff5f-ff6d m2985,2986,2e,300c,300d,3001,30fb,30f2,30a1,30a3,30a5,30a7,30a9,30e3,30e5",
    "ff6e-ff7c m30e7,30c3,30fc,30a2,30a4,30a6,30a8,30aa,30ab,30ad,30af,30b1,30b3,30b5,30b7",
    "ff7d-ff84 m30b9,30bb,30bd,30bf,30c1,30c4,30c6,30c8;ff85-ff8a -cebb",
    "ff8b-ff8e m30d2,30d5,30d8,30db;ff8f-ff93 -ceb1;ff94-ff95 m30e4,30e6;ff96-ff9b -ceae",
    "ff9c-ff9f m30ef,30f3,3099,309a;ffa0 i",
    "ffa1-ffa9 m1100,1101,11aa,1102,11ac,11ad,1103,1104,1105;ffaa-ffaf -edfa",
    "ffb0-ffb4 m111a,1106,1107,1108,1121;ffb5-ffbe -eeac;ffc2-ffc7 -ee61;ffca-ffcf -ee63",
    "ffd2-ffd7 -ee65;ffda-ffdc -ee67;ffe0-ffe6 ma2,a3,ac,20.304,a6,a5,20a9;ffe8 m2502",
    "ffe9-ffec -de59;ffed-ffee m25a0,25cb;10000-1000b v;1000d-10026 v;10028-1003a v",
    "1003c-1003d v;1003f-1004d v;10050-1005d v;10080-100fa v;10100-10102 v;10107-10133 v",
    "10137-1018e v;10190-1019c v;101a0 v;101d0-101fd v;10280-1029c v;102a0-102d0 v",
    "102e0-102fb v;10300-10323 v;1032d-1034a v;10350-1037a v;10380-1039d v;1039f-103c3 v",
    "103c8-103d5 v;10400-10427 +28;10428-1049d v;104a0-104a9 v;104b0-104d3 +28;104d8-104fb v",
    "10500-10527 v;10530-10563 v;1056f v;10570-1057a +27;1057c-1058a +27;1058c-10592 +27",
    "10594-10595 +27;10597-105a1 v;105a3-105b1 v;105b3-105b9 v;105bb-105bc v;105c0-105f3 v",
    "10600-10736 v;10740-10755 v;10760-10767 v;10780 v;10781-10785 m2d0,2d1,e6,299,253",
    "10787-10798 m2a3,ab66,2a5,2a4,256,257,1d91,258,25e,2a9,264,262,260,29b,127,29c,267,284",
    "10799-107a9 m2aa,2ab,26c,1df04,a78e,26e,1df05,28e,1df06,f8,276,277,71,27a,1df08,27d,27e",
    "107aa-107b0 m280,2a8,2a6,ab67,2a7,288,2c71",
    "107b2-107ba m28f,2a1,2a2,298,1c0,1c1,1c2,1df0a,1df1e;10800-10805 v;10808 v;1080a-10835 v",
    "10837-10838 v;1083c v;1083f-10855 v;10857-1089e v;108a7-108af v;108e0-108f2 v",
    "108f4-108f5 v;108fb-1091b v;1091f-10939 v;1093f-10959 v;10980-109b7 v;109bc-109cf v",
    "109d2-10a03 v;10a05-10a06 v;10a0c-10a13 v;10a15-10a17 v;10a19-10a35 v;10a38-10a3a v",
    "10a3f-10a48 v;10a50-10a58 v;10a60-10a9f v;10ac0-10ae6 v;10aeb-10af6 v;10b00-10b35 v",
    "10b39-10b55 v;10b58-10b72 v;10b78-10b91 v;10b99-10b9c v;10ba9-10baf v;10c00-10c48 v",
    "10c80-10cb2 +40;10cc0-10cf2 v;10cfa-10d27 v;10d30-10d39 v;10d40-10d4f v;10d50-10d65 +20",
    "10d69-10d85 v;10d8e-10d8f v;10e60-10e7e v;10e80-10ea9 v;10eab-10ead v;10eb0-10eb1 v",
    "10ec2-10ec7 v;10ed0-10ed8 v;10efa-10f27 v;10f30-10f59 v;10f70-10f89 v;10fb0-10fcb v",
    "10fe0-10ff6 v;11000-1104d v;11052-11075 v;1107f-110bc v;110be-110c2 v;110d0-110e8 v",
    "110f0-110f9 v;11100-11134 v;11136-11147 v;11150-11176 v;11180-111df v;111e1-111f4 v",
    "11200-11211 v;11213-11241 v;11280-11286 v;11288 v;1128a-1128d v;1128f-1129d v",
    "1129f-112a9 v;112b0-112ea v;112f0-112f9 v;11300-11303 v;11305-1130c v;1130f-11310 v",
    "11313-11328 v;1132a-11330 v;11332-11333 v;11335-11339 v;1133b-11344 v;11347-11348 v",
    "1134b-1134d v;11350 v;11357 v;1135d-11363 v;11366-1136c v;11370-11374 v;11380-11389 v",
    "1138b v;1138e v;11390-113b5 v;113b7-113c0 v;113c2 v;113c5 v;113c7-113ca v;113cc-113d5 v",
    "113d7-113d8 v;113e1-113e2 v;11400-1145b v;1145d-11461 v;11480-114c7 v;114d0-114d9 v",
    "11580-115b5 v;115b8-115dd v;11600-11644 v;11650-11659 v;11660-1166c v;11680-116b9 v",
    "116c0-116c9 v;116d0-116e3 v;11700-1171a v;1171d-1172b v;11730-11746 v;11800-1183b v",
    "118a0-118bf +20;118c0-118f2 v;118ff-11906 v;11909 v;1190c-11913 v;11915-11916 v",
    "11918-11935 v;11937-11938 v;1193b-11946 v;11950-11959 v;119a0-119a7 v;119aa-119d7 v",
    "119da-119e4 v;11a00-11a47 v;11a50-11aa2 v;11ab0-11af8 v;11b00-11b09 v;11b60-11b67 v",
    "11bc0-11be1 v;11bf0-11bf9 v;11c00-11c08 v;11c0a-11c36 v;11c38-11c45 v;11c50-11c6c v",
    "11c70-11c8f v;11c92-11ca7 v;11ca9-11cb6 v;11d00-11d06 v;11d08-11d09 v;11d0b-11d36 v",
    "11d3a v;11d3c-11d3d v;11d3f-11d47 v;11d50-11d59 v;11d60-11d65 v;11d67-11d68 v",
    "11d6a-11d8e v;11d90-11d91 v;11d93-11d98 v;11da0-11da9 v;11db0-11ddb v;11de0-11de9 v",
    "11ee0-11ef8 v;11f00-11f10 v;11f12-11f3a v;11f3e-11f5a v;11fb0 v;11fc0-11ff1 v",
    "11fff-12399 v;12400-1246e v;12470-12474 v;12480-12543 v;12f90-12ff2 v;13000-1342f v",
    "13440-13455 v;13460-143fa v;14400-14646 v;16100-16139 v;16800-16a38 v;16a40-16a5e v",
    "16a60-16a69 v;16a6e-16abe v;16ac0-16ac9 v;16ad0-16aed v;16af0-16af5 v;16b00-16b45 v",
    "16b50-16b59 v;16b5b-16b61 v;16b63-16b77 v;16b7d-16b8f v;16d40-16d79 v;16e40-16e5f +20",
    "16e60-16e9a v;16ea0-16eb8 +1b;16ebb-16ed3 v;16f00-16f4a v;16f4f-16f87 v;16f8f-16f9f v",
    "16fe0-16fe4 v;16ff0-16ff6 v;17000-18cd5 v;18cff-18d1e v;18d80-18df2 v;1aff0-1aff3 v",
    "1aff5-1affb v;1affd-1affe v;1b000-1b122 v;1b132 v;1b150-1b152 v;1b155 v;1b164-1b167 v",
    "1b170-1b2fb v;1bc00-1bc6a v;1bc70-1bc7c v;1bc80-1bc88 v;1bc90-1bc99 v;1bc9c-1bc9f v",
    "1bca0-1bca3 i;1cc00-1ccd5 v;1ccd6-1ccef -1cc75;1ccf0-1ccf9 -1ccc0;1ccfa-1ccfc v",
    "1cd00-1ceb3 v;1ceba-1ced0 v;1cee0-1cef0 v;1cf00-1cf2d v;1cf30-1cf46 v;1cf50-1cfc3 v",
    "1d000-1d0f5 v;1d100-1d126 v;1d129-1d15d v",
    "1d15e-1d161 m1d157.1d165,1d158.1d165,1d158.1d165.1d16e,1d158.1d165.1d16f",
    "1d162-1d164 m1d158.1d165.1d170,1d158.1d165.1d171,1d158.1d165.1d172;1d165-1d172 v",
    "1d173-1d17a i;1d17b-1d1ba v",
    "1d1bb-1d1be m1d1b9.1d165,1d1ba.1d165,1d1b9.1d165.1d16e,1d1ba.1d165.1d16e",
    "1d1bf-1d1c0 m1d1b9.1d165.1d16f,1d1ba.1d165.1d16f;1d1c1-1d1ea v;1d200-1d245 v",
    "1d2c0-1d2d3 v;1d2e0-1d2f3 v;1d300-1d356 v;1d360-1d378 v;1d400-1d419 -1d39f",
    "1d41a-1d433 -1d3b9;1d434-1d44d -1d3d3;1d44e-1d454 -1d3ed;1d456-1d467 -1d3ed",
    "1d468-1d481 -1d407;1d482-1d49b -1d421;1d49c m61;1d49e-1d49f -1d43b;1d4a2 m67",
    "1d4a5-1d4a6 -1d43b;1d4a9-1d4ac -1d43b;1d4ae-1d4b5 -1d43b;1d4b6-1d4b9 -1d455;1d4bb m66",
    "1d4bd-1d4c3 -1d455;1d4c5-1d4cf -1d455;1d4d0-1d4e9 -1d46f;1d4ea-1d503 -1d489",
    "1d504-1d505 -1d4a3;1d507-1d50a -1d4a3;1d50d-1d514 -1d4a3;1d516-1d51c -1d4a3",
    "1d51e-1d537 -1d4bd;1d538-1d539 -1d4d7;1d53b-1d53e -1d4d7;1d540-1d544 -1d4d7;1d546 m6f",
    "1d54a-1d550 -1d4d7;1d552-1d56b -1d4f1;1d56c-1d585 -1d50b;1d586-1d59f -1d525",
    "1d5a0-1d5b9 -1d53f;1d5ba-1d5d3 -1d559;1d5d4-1d5ed -1d573;1d5ee-1d607 -1d58d",
    "1d608-1d621 -1d5a7;1d622-1d63b -1d5c1;1d63c-1d655 -1d5db;1d656-1d66f -1d5f5",
    "1d670-1d689 -1d60f;1d68a-1d6a3 -1d629;1d6a4-1d6a5 m131,237;1d6a8-1d6b8 -1d2f7;1d6b9 m3b8",
    "1d6ba-1d6c0 -1d2f7;1d6c1 m2207;1d6c2-1d6d2 -1d311;1d6d3 m3c3;1d6d4-1d6da -1d311",
    "1d6db-1d6e1 m2202,3b5,3b8,3ba,3c6,3c1,3c0;1d6e2-1d6f2 -1d331;1d6f3 m3b8",
    "1d6f4-1d6fa -1d331;1d6fb m2207;1d6fc-1d70c -1d34b;1d70d m3c3;1d70e-1d714 -1d34b",
    "1d715-1d71b m2202,3b5,3b8,3ba,3c6,3c1,3c0;1d71c-1d72c -1d36b;1d72d m3b8",
    "1d72e-1d734 -1d36b;1d735 m2207;1d736-1d746 -1d385;1d747 m3c3;1d748-1d74e -1d385",
    "1d74f-1d755 m2202,3b5,3b8,3ba,3c6,3c1,3c0;1d756-1d766 -1d3a5;1d767 m3b8",
    "1d768-1d76e -1d3a5;1d76f m2207;1d770-1d780 -1d3bf;1d781 m3c3;1d782-1d788 -1d3bf",
    "1d789-1d78f m2202,3b5,3b8,3ba,3c6,3c1,3c0;1d790-1d7a0 -1d3df;1d7a1 m3b8",
    "1d7a2-1d7a8 -1d3df;1d7a9 m2207;1d7aa-1d7ba -1d3f9;1d7bb m3c3;1d7bc-1d7c2 -1d3f9",
    "1d7c3-1d7cb m2202,3b5,3b8,3ba,3c6,3c1,3c0,3dd,3dd;1d7ce-1d7d7 -1d79e;1d7d8-1d7e1 -1d7a8",
    "1d7e2-1d7eb -1d7b2;1d7ec-1d7f5 -1d7bc;1d7f6-1d7ff -1d7c6;1d800-1da8b v;1da9b-1da9f v",
    "1daa1-1daaf v;1df00-1df1e v;1df25-1df2a v;1e000-1e006 v;1e008-1e018 v;1e01b-1e021 v",
    "1e023-1e024 v;1e026-1e02a v;1e030-1e038 -1dc00;1e039-1e03b -1dbff;1e03c-1e046 -1dbfe",
    "1e047-1e050 m44b,44d,44e,a689,4d9,456,458,4e9,4af,4cf;1e051-1e059 -1dc21",
    "1e05a-1e05b -1dc20;1e05c-1e05e m43e,43f,441;1e05f-1e064 -1dc1c",
    "1e065-1e06d m44a,44b,491,456,455,45f,4ab,a651,4b1;1e08f v;1e100-1e12c v;1e130-1e13d v",
    "1e140-1e149 v;1e14e-1e14f v;1e290-1e2ae v;1e2c0-1e2f9 v;1e2ff v;1e4d0-1e4f9 v",
    "1e5d0-1e5fa v;1e5ff v;1e6c0-1e6de v;1e6e0-1e6f5 v;1e6fe-1e6ff v;1e7e0-1e7e6 v",
    "1e7e8-1e7eb v;1e7ed-1e7ee v;1e7f0-1e7fe v;1e800-1e8c4 v;1e8c7-1e8d6 v;1e900-1e921 +22",
    "1e922-1e94b v;1e950-1e959 v;1e95e-1e95f v;1ec71-1ecb4 v;1ed01-1ed3d v",
    "1ee00-1ee03 m627,628,62c,62f;1ee05-1ee09 m648,632,62d,637,64a;1ee0a-1ee0d -1e7c7",
    "1ee0e-1ee1f m633,639,641,635,642,631,634,62a,62b,62e,630,636,638,63a,66e,6ba,6a1,66f",
    "1ee21-1ee22 m628,62c;1ee24 m647;1ee27 m62d;1ee29 m64a;1ee2a-1ee2d -1e7e7",
    "1ee2e-1ee32 m633,639,641,635,642;1ee34-1ee37 m634,62a,62b,62e;1ee39 m636;1ee3b m63a",
    "1ee42 m62c;1ee47 m62d;1ee49 m64a;1ee4b m644;1ee4d-1ee4f m646,633,639",
    "1ee51-1ee52 m635,642;1ee54 m634;1ee57 m62e;1ee59 m636;1ee5b m63a;1ee5d m6ba;1ee5f m66f",
    "1ee61-1ee62 m628,62c;1ee64 m647;1ee67-1ee6a m62d,637,64a,643",
    "1ee6c-1ee72 m645,646,633,639,641,635,642;1ee74-1ee77 m634,62a,62b,62e",
    "1ee79-1ee7c m636,638,63a,66e;1ee7e m6a1",
    "1ee80-1ee89 m627,628,62c,62f,647,648,632,62d,637,64a",
    "1ee8b-1ee9b m644,645,646,633,639,641,635,642,631,634,62a,62b,62e,630,636,638,63a",
    "1eea1-1eea3 m628,62c,62f;1eea5-1eea9 m648,632,62d,637,64a",
    "1eeab-1eebb m644,645,646,633,639,641,635,642,631,634,62a,62b,62e,630,636,638,63a",
    "1eef0-1eef1 v;1f000-1f02b v;1f030-1f093 v;1f0a0-1f0ae v;1f0b1-1f0bf v;1f0c1-1f0cf v",
    "1f0d1-1f0f5 v;1f101-1f10a m30.2c,31.2c,32.2c,33.2c,34.2c,35.2c,36.2c,37.2c,38.2c,39.2c",
    "1f10b-1f10f v",
    "1f110-1f117 m28.61.29,28.62.29,28.63.29,28.64.29,28.65.29,28.66.29,28.67.29,28.68.29",
    "1f118-1f11f m28.69.29,28.6a.29,28.6b.29,28.6c.29,28.6d.29,28.6e.29,28.6f.29,28.70.29",
    "1f120-1f127 m28.71.29,28.72.29,28.73.29,28.74.29,28.75.29,28.76.29,28.77.29,28.78.29",
    "1f128-1f12e m28.79.29,28.7a.29,3014.73.3015,63,72,63.64,77.7a;1f12f v;1f130-1f149 -1f0cf",
    "1f14a-1f14f m68.76,6d.76,73.64,73.73,70.70.76,77.63;1f150-1f169 v",
    "1f16a-1f16c m6d.63,6d.64,6d.72;1f16d-1f18f v;1f190 m64.6a;1f191-1f1ad v;1f1e6-1f1ff v",
    "1f200-1f202 m307b.304b,30b3.30b3,30b5",
    "1f210-1f21e m624b,5b57,53cc,30c7,4e8c,591a,89e3,5929,4ea4,6620,7121,6599,524d,5f8c,518d",
    "1f21f-1f22d m65b0,521d,7d42,751f,8ca9,58f0,5439,6f14,6295,6355,4e00,4e09,904a,5de6,4e2d",
    "1f22e-1f23b m53f3,6307,8d70,6253,7981,7a7a,5408,6e80,6709,6708,7533,5272,55b6,914d",
    "1f240-1f244 m3014.672c.3015,3014.4e09.3015,3014.4e8c.3015,3014.5b89.3015,3014.70b9.3015",
    "1f245-1f248 m3014.6253.3015,3014.76d7.3015,3014.52dd.3015,3014.6557.3015",
    "1f250-1f251 m5f97,53ef;1f260-1f265 v;1f300-1f6d8 v;1f6dc-1f6ec v;1f6f0-1f6fc v",
    "1f700-1f7d9 v;1f7e0-1f7eb v;1f7f0 v;1f800-1f80b v;1f810-1f847 v;1f850-1f859 v",
    "1f860-1f887 v;1f890-1f8ad v;1f8b0-1f8bb v;1f8c0-1f8c1 v;1f8d0-1f8d8 v;1f900-1fa57 v",
    "1fa60-1fa6d v;1fa70-1fa7c v;1fa80-1fa8a v;1fa8e-1fac6 v;1fac8 v;1facd-1fadc v",
    "1fadf-1faea v;1faef-1faf8 v;1fb00-1fb92 v;1fb94-1fbef v;1fbf0-1fbf9 -1fbc0;1fbfa v",
    "20000-2a6df v;2a700-2b81d v;2b820-2cead v;2ceb0-2ebe0 v;2ebf0-2ee5d v",
    "2f800-2f80d m4e3d,4e38,4e41,20122,4f60,4fae,4fbb,5002,507a,5099,50e7,50cf,349e,2063a",
    "2f80e-2f81b m514d,5154,5164,5177,2051c,34b9,5167,518d,2054b,5197,51a4,4ecc,51ac,51b5",
    "2f81c-2f82a m291df,51f5,5203,34df,523b,5246,5272,5277,3515,52c7,52c9,52e4,52fa,5305,5306",
    "2f82b-2f838 m5317,5349,5351,535a,5373,537d,537f,537f,537f,20a2c,7070,53ca,53df,20b63",
    "2f839-2f847 m53eb,53f1,5406,549e,5438,5448,5468,54a2,54f6,5510,5553,5563,5584,5584,5599",
    "2f848-2f856 m55ab,55b3,55c2,5716,5606,5717,5651,5674,5207,58ee,57ce,57f4,580d,578b,5832",
    "2f857-2f864 m5831,58ac,214e4,58f2,58f7,5906,591a,5922,5962,216a8,216ea,59ec,5a1b,5a27",
    "2f865-2f872 m59d8,5a66,36ee,36fc,5b08,5b3e,5b3e,219c8,5bc3,5bd8,5be7,5bf3,21b18,5bff",
    "2f873-2f880 m5c06,5f53,5c22,3781,5c60,5c6e,5cc0,5c8d,21de4,5d43,21de6,5d6e,5d6b,5d7c",
    "2f881-2f88e m5de1,5de2,382f,5dfd,5e28,5e3d,5e69,3862,22183,387c,5eb0,5eb3,5eb6,5eca",
    "2f88f-2f89c m2a392,5efe,22331,22331,8201,5f22,5f22,38c7,232b8,261da,5f62,5f6b,38e3,5f9a",
    "2f89d-2f8ab m5fcd,5fd7,5ff9,6081,393a,391c,6094,226d4,60c7,6148,614c,614e,614c,617a,618e",
    "2f8ac-2f8ba m61b2,61a4,61af,61de,61f2,61f6,6210,621b,625d,62b1,62d4,6350,22b0c,633d,62fc",
    "2f8bb-2f8c9 m6368,6383,63e4,22bf1,6422,63c5,63a9,3a2e,6469,647e,649d,6477,3a6c,654f,656c",
    "2f8ca-2f8d8 m2300a,65e3,66f8,6649,3b19,6691,3b08,3ae4,5192,5195,6700,669c,80ad,43d9,6717",
    "2f8d9-2f8e6 m671b,6721,675e,6753,233c3,3b49,67fa,6785,6852,6885,2346d,688e,681f,6914",
    "2f8e7-2f8f4 m3b9d,6942,69a3,69ea,6aa8,236a3,6adb,3c18,6b21,238a7,6b54,3c4e,6b72,6b9f",
    "2f8f5-2f902 m6bba,6bbb,23a8d,21d0b,23afa,6c4e,23cbc,6cbf,6ccd,6c67,6d16,6d3e,6d77,6d41",
    "2f903-2f910 m6d69,6d78,6d85,23d1e,6d34,6e2f,6e6e,3d33,6ecb,6ec7,23ed1,6df9,6f6e,23f5e",
    "2f911-2f91e m23f8e,6fc6,7039,701e,701b,3d96,704a,707d,7077,70ad,20525,7145,24263,719c",
    "2f91f-2f92c m243ab,7228,7235,7250,24608,7280,7295,24735,24814,737a,738b,3eac,73a5,3eb8",
    "2f92d-2f93a m3eb8,7447,745c,7471,7485,74ca,3f1b,7524,24c36,753e,24c92,7570,2219f,7610",
    "2f93b-2f947 m24fa1,24fb8,25044,3ffc,4008,76f4,250f3,250f2,25119,25133,771e,771f,771f",
    "2f948-2f955 m774a,4039,778b,4046,4096,2541d,784e,788c,78cc,40e3,25626,7956,2569a,256c5",
    "2f956-2f963 m798f,79eb,412f,7a40,7a4a,7a4f,2597c,25aa7,25aa7,7aee,4202,25bab,7bc6,7bc9",
    "2f964-2f971 m4227,25c80,7cd2,42a0,7ce8,7ce3,7d00,25f86,7d63,4301,7dc7,7e02,7e45,4334",
    "2f972-2f97e m26228,26247,4359,262d9,7f7a,2633e,7f95,7ffa,8005,264da,26523,8060,265a8",
    "2f97f-2f98c m8070,2335f,43d5,80b2,8103,440b,813e,5ab5,267a7,267b5,23393,2339c,8201,8204",
    "2f98d-2f99b m8f9e,446b,8291,828b,829d,52b3,82b1,82b3,82bd,82e6,26b3c,82e5,831d,8363,83ad",
    "2f99c-2f9a9 m8323,83bd,83e7,8457,8353,83ca,83cc,83dc,26c36,26d6b,26cd5,452b,84f1,84f3",
    "2f9aa-2f9b7 m8516,273ca,8564,26f2c,455d,4561,26fb1,270d2,456b,8650,865c,8667,8669,86a9",
    "2f9b8-2f9c6 m8688,870e,86e2,8779,8728,876b,8786,45d7,87e1,8801,45f9,8860,8863,27667,88d7",
    "2f9c7-2f9d4 m88de,4635,88fa,34bb,278ae,27966,46be,46c7,8aa0,8aed,8b8a,8c55,27ca8,8cab",
    "2f9d5-2f9e2 m8cc1,8d1b,8d77,27f2f,20804,8dcb,8dbc,8df0,208de,8ed4,8f38,285d2,285ed,9094",
    "2f9e3-2f9f0 m90f1,9111,2872e,911b,9238,92d7,92d8,927c,93f9,9415,28bfa,958b,4995,95b7",
    "2f9f1-2f9fe m28d77,49e6,96c3,5db2,9723,29145,2921a,4a6e,4a76,97e0,2940a,4ab2,29496,980b",
    "2f9ff-2fa0c m980b,9829,295b6,98e2,4b33,9929,99a7,99c2,99fe,4bce,29b30,9b12,9c40,9cfd",
    "2fa0d-2fa1a m4cce,4ced,9d67,2a0ce,4cf8,2a105,2a20e,2a291,9ebb,4d56,9ef9,9efe,9f05,9f0f",
    "2fa1b-2fa1d m9f16,9f3b,2a600;30000-3134a v;31350-33479 v;e0100-e01ef i"]

/-- Read the note of an entry. -/
def actionOf : List Char → Action
  | 'i' :: _ => .ignored
  | 'a' :: _ => .paired
  | '+' :: cs => .shifted (CharTable.hexValue cs)
  | '-' :: cs => .shifted (-(CharTable.hexValue cs : Int))
  | 'm' :: cs =>
    .listed ((cs.splitOn ',').map fun text => (text.splitOn '.').map CharTable.hexValue)
  | _ => .valid

/-- The table. -/
def table : CharTable :=
  CharTable.ofRows rows

/-- The characters that take the place of one. -/
def Action.apply (first c : Nat) : Action → List Nat
  | valid => [c]
  | ignored => []
  | paired => if (c - first) % 2 = 0 then [c + 1] else [c]
  | shifted distance => [((c : Int) + distance).toNat]
  | listed texts => texts.getD (c - first) [c]

/-- The characters that take the place of one; none if it may not stand in a name. -/
def map? (c : Nat) : Option (List Nat) :=
  (table.find? c).map fun e => (actionOf e.note).apply e.first c

/-- Whether a character is mapped to itself. -/
def isValid (c : Nat) : Bool :=
  map? c = some [c]

/-- Map the characters of a name one by one. -/
def mapChars : List Nat → Option (List Nat)
  | [] => some []
  | c :: cs =>
    match map? c, mapChars cs with
    | some head, some tail => some (head ++ tail)
    | _, _ => none

end Mapping
end OptimisticCache
