/-! Ranges of each general category of the Unicode Character Database, version 17.0, written
as alternating gaps and lengths in base 36 (`gap.length`, comma separated, each gap counted from
the end of the previous range). `Cn` is not listed: it holds what no other category holds. -/

namespace Descent

namespace Unicode

/-- Each leaf category's short name and encoded ranges. -/
def categoryRanges : List (String × String) := [
  ("Lu",
    "1t.p,2t.m,1.6,x.0,1.0,1.0,1.0,1.0,1.0,1.0,1.0,1.0,1.0,1.0,1.0,1.0,1.0,1.0,1.0,1.0,1.0,1.0,1.0,1." ++
    "0,1.0,1.0,1.0,1.0,1.0,1.0,1.0,2.0,1.0,1.0,1.0,1.0,1.0,1.0,1.0,2.0,1.0,1.0,1.0,1.0,1.0,1.0,1.0,1." ++
    "0,1.0,1.0,1.0,1.0,1.0,1.0,1.0,1.0,1.0,1.0,1.0,1.0,1.0,1.0,1.1,1.0,1.0,3.1,1.0,1.1,1.2,2.3,1.1,1." ++
    "2,3.1,1.1,1.0,1.0,1.1,1.0,2.0,1.1,1.2,1.0,1.1,3.0,7.0,2.0,2.0,2.0,1.0,1.0,1.0,1.0,1.0,1.0,1.0,2." ++
    "0,1.0,1.0,1.0,1.0,1.0,1.0,1.0,1.0,2.0,2.0,1.2,1.0,1.0,1.0,1.0,1.0,1.0,1.0,1.0,1.0,1.0,1.0,1.0,1." ++
    "0,1.0,1.0,1.0,1.0,1.0,1.0,1.0,1.0,1.0,1.0,1.0,1.0,1.0,1.0,1.0,1.0,7.1,1.1,2.0,1.3,1.0,1.0,1.0,1." ++
    "0,81.0,1.0,3.0,8.0,6.0,1.2,1.0,1.1,1.g,1.8,z.0,2.2,3.0,1.0,1.0,1.0,1.0,1.0,1.0,1.0,1.0,1.0,1.0,1" ++
    ".0,5.0,2.0,1.1,2.1e,1c.0,1.0,1.0,1.0,1.0,1.0,1.0,1.0,1.0,1.0,1.0,1.0,1.0,1.0,1.0,1.0,1.0,9.0,1.0" ++
    ",1.0,1.0,1.0,1.0,1.0,1.0,1.0,1.0,1.0,1.0,1.0,1.0,1.0,1.0,1.0,1.0,1.0,1.0,1.0,1.0,1.0,1.0,1.0,1.0" ++
    ",1.0,1.1,1.0,1.0,1.0,1.0,1.0,1.0,2.0,1.0,1.0,1.0,1.0,1.0,1.0,1.0,1.0,1.0,1.0,1.0,1.0,1.0,1.0,1.0" ++
    ",1.0,1.0,1.0,1.0,1.0,1.0,1.0,1.0,1.0,1.0,1.0,1.0,1.0,1.0,1.0,1.0,1.0,1.0,1.0,1.0,1.0,1.0,1.0,1.0" ++
    ",1.0,1.0,1.0,1.0,1.0,1.0,1.0,1.0,2.11,289.11,1.0,5.0,k2.2d,1oz.0,6.16,2.2,8w.0,1.0,1.0,1.0,1.0,1" ++
    ".0,1.0,1.0,1.0,1.0,1.0,1.0,1.0,1.0,1.0,1.0,1.0,1.0,1.0,1.0,1.0,1.0,1.0,1.0,1.0,1.0,1.0,1.0,1.0,1" ++
    ".0,1.0,1.0,1.0,1.0,1.0,1.0,1.0,1.0,1.0,1.0,1.0,1.0,1.0,1.0,1.0,1.0,1.0,1.0,1.0,1.0,1.0,1.0,1.0,1" ++
    ".0,1.0,1.0,1.0,1.0,1.0,1.0,1.0,1.0,1.0,1.0,1.0,1.0,1.0,1.0,1.0,1.0,1.0,1.0,1.0,1.0,1.0,9.0,1.0,1" ++
    ".0,1.0,1.0,1.0,1.0,1.0,1.0,1.0,1.0,1.0,1.0,1.0,1.0,1.0,1.0,1.0,1.0,1.0,1.0,1.0,1.0,1.0,1.0,1.0,1" ++
    ".0,1.0,1.0,1.0,1.0,1.0,1.0,1.0,1.0,1.0,1.0,1.0,1.0,1.0,1.0,1.0,1.0,1.0,1.0,1.0,1.0,1.0,1.0,9.7,8" ++
    ".5,a.7,8.7,8.5,b.0,1.0,1.0,1.0,8.7,20.3,c.3,c.3,c.4,b.3,7a.0,4.0,3.2,2.2,2.0,3.4,6.0,1.0,1.0,1.3" ++
    ",2.3,a.1,5.0,1p.0,22k.1b,1c.0,1.2,2.0,1.0,1.0,1.3,1.0,2.0,8.2,1.0,1.0,1.0,1.0,1.0,1.0,1.0,1.0,1." ++
    "0,1.0,1.0,1.0,1.0,1.0,1.0,1.0,1.0,1.0,1.0,1.0,1.0,1.0,1.0,1.0,1.0,1.0,1.0,1.0,1.0,1.0,1.0,1.0,1." ++
    "0,1.0,1.0,1.0,1.0,1.0,1.0,1.0,1.0,1.0,1.0,1.0,1.0,1.0,1.0,1.0,1.0,8.0,1.0,4.0,nyl.0,1.0,1.0,1.0," ++
    "1.0,1.0,1.0,1.0,1.0,1.0,1.0,1.0,1.0,1.0,1.0,1.0,1.0,1.0,1.0,1.0,1.0,1.0,1.0,j.0,1.0,1.0,1.0,1.0," ++
    "1.0,1.0,1.0,1.0,1.0,1.0,1.0,1.0,1.0,3r.0,1.0,1.0,1.0,1.0,1.0,1.0,3.0,1.0,1.0,1.0,1.0,1.0,1.0,1.0" ++
    ",1.0,1.0,1.0,1.0,1.0,1.0,1.0,1.0,1.0,1.0,1.0,1.0,1.0,1.0,1.0,1.0,1.0,1.0,1.0,1.0,1.0,1.0,1.0,a.0" ++
    ",1.0,1.1,1.0,1.0,1.0,1.0,4.0,1.0,2.0,1.0,3.0,1.0,1.0,1.0,1.0,1.0,1.0,1.0,1.0,1.0,1.4,1.4,1.0,1.0" ++
    ",1.0,1.0,1.0,1.0,1.0,1.3,1.0,1.1,1.0,1.0,1.0,1.0,1.0,1.0,1.0,1.0,o.0,h7v.p,xx.13,3s.z,4c.a,1.e,1" ++
    ".6,1.1,1d6.1e,4d.l,27u.v,gw0.v,1s.o,k07.p,q.p,q.p,q.0,1.1,2.0,2.1,2.3,1.7,q.p,q.1,1.3,2.7,1.6,r." ++
    "1,1.3,1.4,1.0,3.6,r.p,q.p,q.p,q.p,q.p,q.p,u.o,x.o,x.o,x.o,x.o,x.0,3ed.x"),
  ("Ll",
    "2p.p,1m.0,15.n,1.7,1.0,1.0,1.0,1.0,1.0,1.0,1.0,1.0,1.0,1.0,1.0,1.0,1.0,1.0,1.0,1.0,1.0,1.0,1.0,1" ++
    ".0,1.0,1.0,1.0,1.0,1.0,1.0,1.0,1.1,1.0,1.0,1.0,1.0,1.0,1.0,1.0,1.1,1.0,1.0,1.0,1.0,1.0,1.0,1.0,1" ++
    ".0,1.0,1.0,1.0,1.0,1.0,1.0,1.0,1.0,1.0,1.0,1.0,1.0,1.0,1.0,1.0,2.0,1.0,1.2,2.0,1.0,2.0,3.1,4.0,2" ++
    ".0,3.2,2.0,2.0,1.0,1.0,2.0,1.1,1.0,2.0,3.0,1.0,2.1,2.2,6.0,2.0,2.0,1.0,1.0,1.0,1.0,1.0,1.0,1.0,1" ++
    ".1,1.0,1.0,1.0,1.0,1.0,1.0,1.0,1.0,1.1,2.0,1.0,3.0,1.0,1.0,1.0,1.0,1.0,1.0,1.0,1.0,1.0,1.0,1.0,1" ++
    ".0,1.0,1.0,1.0,1.0,1.0,1.0,1.0,1.0,1.0,1.0,1.0,1.0,1.0,1.0,1.0,1.0,1.6,2.0,2.1,1.0,4.0,1.0,1.0,1" ++
    ".0,1.1w,2.p,5d.0,1.0,3.0,3.2,i.0,r.y,1.1,3.2,1.0,1.0,1.0,1.0,1.0,1.0,1.0,1.0,1.0,1.0,1.0,1.4,1.0" ++
    ",2.0,2.1,1f.1b,1.0,1.0,1.0,1.0,1.0,1.0,1.0,1.0,1.0,1.0,1.0,1.0,1.0,1.0,1.0,1.0,1.0,9.0,1.0,1.0,1" ++
    ".0,1.0,1.0,1.0,1.0,1.0,1.0,1.0,1.0,1.0,1.0,1.0,1.0,1.0,1.0,1.0,1.0,1.0,1.0,1.0,1.0,1.0,1.0,1.0,2" ++
    ".0,1.0,1.0,1.0,1.0,1.0,1.1,1.0,1.0,1.0,1.0,1.0,1.0,1.0,1.0,1.0,1.0,1.0,1.0,1.0,1.0,1.0,1.0,1.0,1" ++
    ".0,1.0,1.0,1.0,1.0,1.0,1.0,1.0,1.0,1.0,1.0,1.0,1.0,1.0,1.0,1.0,1.0,1.0,1.0,1.0,1.0,1.0,1.0,1.0,1" ++
    ".0,1.0,1.0,1.0,1.0,1.0,1.0,1c.14,287.16,2.2,l4.5,1oi.8,1.0,39.17,1r.c,1.x,2u.0,1.0,1.0,1.0,1.0,1" ++
    ".0,1.0,1.0,1.0,1.0,1.0,1.0,1.0,1.0,1.0,1.0,1.0,1.0,1.0,1.0,1.0,1.0,1.0,1.0,1.0,1.0,1.0,1.0,1.0,1" ++
    ".0,1.0,1.0,1.0,1.0,1.0,1.0,1.0,1.0,1.0,1.0,1.0,1.0,1.0,1.0,1.0,1.0,1.0,1.0,1.0,1.0,1.0,1.0,1.0,1" ++
    ".0,1.0,1.0,1.0,1.0,1.0,1.0,1.0,1.0,1.0,1.0,1.0,1.0,1.0,1.0,1.0,1.0,1.0,1.0,1.0,1.0,1.8,1.0,1.0,1" ++
    ".0,1.0,1.0,1.0,1.0,1.0,1.0,1.0,1.0,1.0,1.0,1.0,1.0,1.0,1.0,1.0,1.0,1.0,1.0,1.0,1.0,1.0,1.0,1.0,1" ++
    ".0,1.0,1.0,1.0,1.0,1.0,1.0,1.0,1.0,1.0,1.0,1.0,1.0,1.0,1.0,1.0,1.0,1.0,1.0,1.0,1.0,1.0,1.8,8.5,a" ++
    ".7,8.7,8.5,a.7,8.7,8.d,2.7,8.7,8.7,8.4,1.1,6.0,3.2,1.1,8.3,2.1,8.7,a.2,1.1,7m.0,3.1,3.0,r.0,4.0," ++
    "4.0,2.1,8.3,4.0,1h.0,23v.1b,1.0,3.1,1.0,1.0,1.0,4.0,1.1,1.5,5.0,1.0,1.0,1.0,1.0,1.0,1.0,1.0,1.0," ++
    "1.0,1.0,1.0,1.0,1.0,1.0,1.0,1.0,1.0,1.0,1.0,1.0,1.0,1.0,1.0,1.0,1.0,1.0,1.0,1.0,1.0,1.0,1.0,1.0," ++
    "1.0,1.0,1.0,1.0,1.0,1.0,1.0,1.0,1.0,1.0,1.0,1.0,1.0,1.0,1.0,1.0,1.1,7.0,1.0,4.0,c.11,1.0,5.0,nwz" ++
    ".0,1.0,1.0,1.0,1.0,1.0,1.0,1.0,1.0,1.0,1.0,1.0,1.0,1.0,1.0,1.0,1.0,1.0,1.0,1.0,1.0,1.0,1.0,j.0,1" ++
    ".0,1.0,1.0,1.0,1.0,1.0,1.0,1.0,1.0,1.0,1.0,1.0,1.0,3r.0,1.0,1.0,1.0,1.0,1.0,1.2,1.0,1.0,1.0,1.0," ++
    "1.0,1.0,1.0,1.0,1.0,1.0,1.0,1.0,1.0,1.0,1.0,1.0,1.0,1.0,1.0,1.0,1.0,1.0,1.0,1.0,1.0,1.0,1.0,1.0," ++
    "1.0,1.0,1.0,1.7,1.0,1.0,2.0,1.0,1.0,1.0,1.0,4.0,1.0,2.0,1.2,1.0,1.0,1.0,1.0,1.0,1.0,1.0,1.0,1.0," ++
    "1.0,5.0,5.0,1.0,1.0,1.0,1.0,1.0,1.0,1.0,4.0,1.0,2.0,1.0,1.0,1.0,1.0,1.0,1.0,1.0,q.0,3.0,mt.16,5." ++
    "8,7.27,fnk.6,c.4,tl.p,y5.13,3s.z,4b.a,1.e,1.6,1.1,1dv.1e,3h.l,27u.v,gw0.v,1n.o,k06.p,q.6,1.h,q.p" ++
    ",q.3,1.0,1.6,1.a,q.p,q.p,q.p,q.p,q.p,q.p,q.p,q.p,q.r,s.o,1.5,q.o,1.5,q.o,1.5,q.o,1.5,q.o,1.5,1.0" ++
    ",1f8.9,1.j,6.5,1yv.x"),
  ("Lt",
    "cl.0,2.0,2.0,12.0,5ud.7,8.7,8.7,c.0,f.0,1b.0"),
  ("Lm",
    "j4.h,4.b,e.4,7.0,1.0,3p.0,5.0,da.0,6e.0,4k.1,7h.1,4.0,v.0,9.0,3.0,4g.0,4n.0,yc.0,3j.0,fp.0,1cq.0" ++
    ",2z.0,gz.0,cw.5,4u.1q,d.0,y.10,j5.0,d.0,g.c,2cf.1,6p.0,5b.0,d1.0,17.4,5.0,2p.1,2l.2,lxy.0,yq.5,7" ++
    "i.0,36.0,s.1,3d.8,28.0,n.0,2w.3,3.1,d1.0,m.0,3t.0,30.0,l.1,2v.3,9.0,gli.0,19.1,1k0.5,1.15,1.8,13" ++
    "n.0,w.0,9h.0,2z7.0,fae.3,e4.2,14.1,fa.c,1s.1,1.0,e.1,cn0.3,1.6,1.1,9ip.1p,5l.6,q5.0,er.0,gb.0"),
  ("Lo",
    "4q.0,f.0,74.0,4.3,5s.1,my.q,4.3,19.v,1.9,z.1,1.2q,1.0,o.1,a.2,2.0,g.0,1.t,t.2g,b.0,o.w,l.l,16.o," ++
    "7.a,5.n,1.6,g.14,1n.1h,3.0,i.0,7.9,g.e,4.7,2.1,2.l,1.6,1.0,3.3,3.0,g.0,d.1,1.2,e.1,a.0,8.5,4.1,2" ++
    ".l,1.6,1.1,1.1,1.1,v.3,1.0,j.2,g.8,1.2,1.l,1.6,1.1,1.4,3.0,i.0,f.1,n.0,b.7,2.1,2.l,1.6,1.1,1.4,3" ++
    ".0,u.1,1.2,f.0,h.0,1.5,3.2,1.3,3.1,1.0,1.1,3.1,3.2,3.b,m.0,1g.7,1.2,1.m,1.f,3.0,q.2,1.1,2.1,u.0," ++
    "4.7,1.2,1.m,1.9,1.4,3.0,u.2,1.1,f.1,h.8,1.2,1.14,2.0,g.0,5.2,8.2,o.5,5.h,3.n,1.8,1.0,2.6,1m.1b,1" ++
    ".1,c.5,1n.1,1.0,1.4,1.n,1.0,1.9,1.1,9.0,2.4,n.3,w.0,1r.7,1.z,r.4,37.16,k.0,g.5,4.3,3.0,3.1,7.2,4" ++
    ".c,c.0,35.94,1.3,2.6,1.0,1.3,2.14,1.3,2.w,1.3,2.6,1.0,1.3,2.e,1.1k,1.3,2.1u,11.f,35.h7,2.g,1.p,5" ++
    ".22,6.7,7.h,d.i,e.h,e.c,1.2,f.1f,14.0,1v.y,1.1g,7.4,2.x,1.0,5.1x,a.u,1d.t,2.4,b.17,4.p,1i.m,9.1g" ++
    ",4w.1a,h.7,1i.t,d.1,a.17,q.z,15.2,a.t,35.3,1.5,1.1,3.0,u2.3,2d3.1j,o.m,9.6,1.6,1.6,1.6,1.6,1.6,1" ++
    ".6,1.6,fb.0,1h.0,4.2d,8.0,1.2h,4.0,5.16,1.2l,h.v,1c.f,e8.533,1s.g7o,1.vq,1v.13,8.7f,4.f,a.1,1u.0" ++
    ",1d.1x,4p.0,2v.0,3.6,1.2,1.3,1.m,t.1f,e.1d,1q.5,3.0,1.1,b.r,a.m,p.s,7.1a,19.4,2.8,a.4,1.14,n.2,1" ++
    ".7,k.f,1.5,3.0,3.1d,1.0,3.1,2.4,2.0,1.0,o.1,3.a,7.0,e.5,2.5,2.5,9.6,1.6,41.y,t.8mb,c.m,4.1c,6is." ++
    "a5,2.2x,1v.0,1.9,1.c,1.4,1.0,1.1,1.1,1.2z,x.a2,i.1r,2.1h,14.b,38.4,1.3q,2x.9,1.18,2.u,3.5,2.5,2." ++
    "5,2.2,z.b,1.p,1.i,1.1,1.e,2.d,y.3e,at.s,3.1c,1b.v,d.j,1.7,6.11,a.t,2.z,4.7,3k.25,2q.13,8.1f,2k.1" ++
    "f,c.8m,9.l,a.7,48.5,2.0,1.17,1.1,3.0,2.m,a.m,9.u,1t.i,1.1,a.l,a.p,6.p,12.1j,6.1,1s.0,f.3,1.2,1.s" ++
    ",16.s,3.s,z.7,1.r,r.1h,a.l,a.i,d.h,32.20,53.z,12.3,1.0,8g.15,6.1,g.2,1.1,1k.s,a.0,8.l,16.h,1a.k," ++
    "r.m,c.1g,1l.1,2.0,d.18,w.o,q.z,t.0,2.0,8.y,3.0,c.1b,e.3,l.0,1.0,z.h,1.o,j.1,1r.6,1.0,1.3,1.e,1.9" ++
    ",7.1a,12.7,2.1,2.l,1.6,1.1,1.4,3.0,i.0,c.4,u.9,1.0,2.0,1.11,1.0,p.0,1.0,18.1g,i.3,k.2,u.1b,k.1,1" ++
    ".0,54.1a,15.3,10.1b,k.0,1n.16,d.0,1z.q,11.6,55.17,5v.7,2.0,2.7,1.1,1.n,f.0,1.0,2m.7,2.12,g.0,1.0" ++
    ",s.0,a.13,7.0,l.0,b.19,j.0,i.20,5j.w,v.8,1.10,h.0,1d.t,34.6,1.1,1.11,l.0,p.5,1.1,1.v,e.0,n.14,1." ++
    "1,78.i,f.0,1.c,1.x,3g.0,27.pl,6e.5f,218.2o,f.tr,h.5,p.32y,5.g6,5a1.t,1cy.fs,7.u,h.26,h.t,i.1b,1f" ++
    ".k,5.i,c3.13,b9.22,5.0,4v.5p1,15.v,2p.36,6q5.82,f.0,t.2,2.0,e.3,8.az,1s4.2y,5.c,3.8,7.9,6sw.0,dx" ++
    ".18,x.0,8x.t,i.17,dg.q,6d.t,2.0,5r.u,1.2,1.1,1.6,2.4,9.0,69.6,1.3,1.1,1.e,1.5g,117.3,1.q,1.1,1.0" ++
    ",2.0,1.9,1.3,1.0,1.0,6.0,4.0,1.0,1.0,1.2,1.1,1.0,2.0,1.0,1.0,1.0,1.0,1.1,1.0,2.3,1.6,1.3,1.3,1.0" ++
    ",1.9,1.g,5.2,1.4,1.g,3es.wyn,w.3dp,2.4gd,2.5rk,f.h9,1wi.f1,15u.3t6,5.6jt"),
  ("Mn",
    "lc.33,7n.4,7d.18,1.0,1.1,1.1,1.0,20.a,1c.k,g.0,2t.6,2.5,2.1,1.3,z.0,u.q,2j.a,1m.8,9.0,o.3,1.8,1." ++
    "2,1.4,17.2,1n.8,16.n,1.v,1j.0,1.0,4.7,4.0,3.6,a.1,t.0,1m.0,4.3,8.0,k.1,q.0,2.1,1l.0,4.1,4.1,2.2," ++
    "3.0,u.1,3.0,b.1,1l.0,4.4,1.1,4.0,k.1,m.5,1.0,1m.0,2.0,1.3,8.0,7.1,b.1,u.0,1p.0,c.0,1e.0,3.0,1j.0" ++
    ",1.2,5.2,1.3,7.1,b.1,t.0,1m.0,2.0,6.0,5.1,k.1,s.1,1l.1,4.3,8.0,k.1,t.0,20.0,7.2,1.0,2i.0,2.6,c.7" ++
    ",2q.0,2.8,b.6,21.1,r.0,1.0,1.0,1j.d,1.4,1.1,5.a,1.z,9.0,2u.3,1.5,1.1,2.1,p.1,4.2,g.3,d.0,2.1,6.0" ++
    ",f.0,jj.2,qa.2,t.1,u.1,u.1,1s.1,1.6,8.0,2.a,9.0,19.2,1.0,39.1,y.0,3a.2,4.1,9.0,6.2,63.1,2.0,1m.0" ++
    ",1.6,1.0,1.0,2.7,6.9,2.0,1c.d,1.u,2.b,k.3,1c.0,1.4,1.0,5.0,14.8,c.1,w.3,2.1,1.2,1k.0,1.1,3.0,1.2" ++
    ",1m.7,2.1,48.2,1.c,1.6,4.0,6.0,3.1,5i.1r,k0.c,4.0,3.b,2da.2,3x.0,2o.v,fe.3,2z.1,n9w.0,4.9,w.1,28" ++
    ".1,7k.0,3.0,4.0,p.1,5.0,47.1,q.h,d.0,12.7,p.a,1a.2,1c.0,2.3,2.1,13.0,1v.5,2.1,2.1,c.0,8.0,1b.0,1" ++
    "f.0,1.2,2.1,5.1,1.0,16.1,8.0,6m.0,2.0,4.0,fn4.0,kh.f,g.f,r1.0,6a.0,45.4,1ae.2,1.1,5.3,14.2,4.0,4" ++
    "l.1,fx.3,1t.4,8t.1,25.5,1y.a,1d.3,3f.0,1i.e,15.0,2.1,a.2,1d.3,2.1,7.0,1p.2,10.4,1.7,1q.0,c.1,1g." ++
    "8,a.3,2.0,2n.2,2.0,1.1,6.0,2.0,4d.0,3.7,l.1,1l.1,3.0,11.6,3.4,1y.5,d.0,1.0,1.0,e.1,2d.7,2.2,1.0," ++
    "n.0,2c.5,1.0,4.1,1.1,6m.3,6.1,1.1,r.1,2d.7,2.0,1.1,2y.0,1.0,2.5,1.0,2t.0,1.0,2.3,1.4,77.8,1.1,74" ++
    ".1,1.0,4.0,40.3,2.1,4.0,w.9,14.5,2.3,8.0,9.5,2.2,1a.c,1.1,5i.0,1.2,1.0,5l.6,1.5,1.0,2a.l,2.6,1.1" ++
    ",1.1,3e.5,3.0,1.1,1.6,1.0,20.1,3.0,1.0,9n.1,b.1,1g.4,5.0,1.0,n.0,44l.0,6.e,8ug.b,3.2,1xc.4,1n.6," ++
    "t4.0,1r.3,29.0,f5k.1,3mp.19,2.m,f4.2,h.7,2.6,u.3,44.2,1iz.1i,4.1d,8.0,e.0,m.4,1.e,11s.6,1.g,2.6," ++
    "1.1,1.4,2s.0,4g.6,af.0,1p.3,e4.3,72.1,6r.0,2.0,7.1,5.0,d6.6,31.6,gzhx.6n"),
  ("Mc",
    "1s3.0,1j.0,2.2,8.3,1.1,1e.1,1m.2,6.1,2.1,a.0,17.0,1m.2,1u.0,1m.2,8.0,1.1,1h.1,1m.0,1.0,6.1,2.1,a" ++
    ".0,2u.1,1.1,3.2,1.2,a.0,15.2,1p.3,1p.1,1m.0,1.4,2.1,1.1,9.1,s.0,e.1,1m.2,5.2,1.2,a.0,16.1,23.2,6" ++
    ".7,i.1,96.1,1r.0,4r.1,4.0,6.0,2.1,p.1,a.2,2.6,l.1,2.5,2.0,a.2,1a0.0,u.0,3l.0,7.7,1.1,9m.3,2.2,4." ++
    "1,1.5,68.1,1m.0,1.0,9.0,1.1,8.5,41.0,1c.0,5.0,1.4,1.1,1p.0,u.0,4.1,2.0,1o.0,2.2,1.0,3.1,1c.7,8.1" ++
    ",4r.0,l.0,3sm.1,noz.1,2.0,2g.1,1e.f,3y.1,1b.0,1c.1,4.1,2.2,32.1,2.1,o.0,19.0,1.0,31.0,2.1,5.0,6l" ++
    ".1,1.1,1.1,1.0,jrn.0,1.0,3j.0,19.2,4.1,37.0,o.1,1n.0,1c.2,9.1,d.0,2l.2,3.1,1.0,4q.2,v.1,1m.1,1.3" ++
    ",2.1,2.2,9.0,a.1,2c.2,7.0,2.0,1.3,1.1,1.0,2t.2,8.1,3.0,2y.2,6.0,1.3,2.0,6l.2,6.3,2.0,35.2,8.1,1." ++
    "0,31.0,1.1,6.0,2v.0,1.1,4.0,79.2,9.0,6v.5,1.1,4.0,2.0,1.0,3y.2,8.3,4.0,2c.0,t.1,1q.0,5l.0,3.0,1." ++
    "0,5j.0,e.0,2y.0,7.0,2.0,5x.4,4.1,1.0,9q.1,c.0,1c.1,8.1,1.0,d0o.2,2sk.1i,2w.1,j8z.1,6.5"),
  ("Me",
    "w8.1,4dw.0,17i.3,1.2,qdn.2"),
  ("Nd",
    "1c.9,17q.9,3q.9,5i.9,bg.9,3a.9,3a.9,3a.9,3a.9,3a.9,3a.9,3a.9,3a.9,3a.9,2o.9,3a.9,1y.9,7q.9,1y.9," ++
    "1fq.9,12.9,8c.9,3k.9,4m.9,6.9,52.9,2e.9,3q.9,6.9,r7q.9,iu.9,12.9,5i.9,m.9,2e.9,ba.9,geu.9,13a.9," ++
    "1om.9,6.9,m4.9,3k.9,1o.9,40.9,7q.9,9i.9,3a.9,ae.9,2u.9,6.j,24.9,bq.9,2u.9,ie.9,2e.9,6u.9,1y.9,1i" ++
    ".9,9y.9,d06.9,1t2.9,2e.9,3q.9,eu.9,iuu.9,250.1d,1ts.9,bq.9,dy.9,6v.9,np.9,3o6.9"),
  ("Nl",
    "4j2.2,227.y,2.3,2v2.0,p.8,e.2,nfv.9,hu8.1g,cs.0,8.0,3q.4,6cq.32,ex1.2"),
  ("No",
    "4y.1,5.0,2.2,1th.5,ag.5,3c.2,3p.6,61.6,h.8,c1.9,tx.j,vn.9,dc.0,1at.0,3.5,6.9,5i.f,15.0,k6.1n,26." ++
    "l,hi.t,12h.0,wk.3,3u.9,u.7,1.e,w.9,13.e,n74.5,hjl.18,1t.3,h.1,9h.q,10.3,110.7,p.6,13.8,23.4,m.5," ++
    "4g.1,2.f,2.19,1s.8,1g.1,u.2,23.4,2w.7,o.7,15.6,96.5,9s.u,4e.9,16.3,34.6,3q.j,aj.j,11h.1,by.8,o7." ++
    "i,nn.k,ex2.6,m6.m,js9.j,c.j,30.o,47i.8,pt.1m,1.2,1.3,24.18,1.e,qq.c"),
  ("Pc",
    "2n.0,6an.1,j.0,17tq.1,o.2,6n.0"),
  ("Pd",
    "19.0,124.0,1f.0,2td.0,sl.0,1l5.5,2rl.0,2.0,v.1,4.0,s.0,ce.0,j.0,33.0,14ls.1,11.0,a.0,4p.0,2u8.0," ++
    "8u.0"),
  ("Ps",
    "14.0,1e.0,v.0,2wu.0,1.0,1ge.0,1vi.0,3.0,12.0,1j.0,f.0,hm.0,1.0,u.0,u6.0,1.0,1.0,1.0,1.0,1.0,1.0," ++
    "28.0,w.0,1.0,1.0,1.0,1.0,b8.0,1.0,1.0,1.0,1.0,1.0,1.0,1.0,1.0,1.0,1.0,1s.0,1.0,x.0,th.0,1.0,1.0," ++
    "1.0,p.0,i.0,1.0,1.0,1.0,bw.0,1.0,1.0,1.0,1.0,3.0,1.0,1.0,1.0,2.0,14ip.0,5z.0,t.0,1.0,1.0,1.0,1.0" ++
    ",1.0,1.0,1.0,3.0,h.0,1.0,1.0,4q.0,1e.0,v.0,3.0,2.0"),
  ("Pe",
    "15.0,1f.0,v.0,2wt.0,1.0,1ge.0,1wp.0,1j.0,f.0,hm.0,1.0,u.0,u6.0,1.0,1.0,1.0,1.0,1.0,1.0,28.0,w.0," ++
    "1.0,1.0,1.0,1.0,b8.0,1.0,1.0,1.0,1.0,1.0,1.0,1.0,1.0,1.0,1.0,1s.0,1.0,x.0,th.0,1.0,1.0,1.0,18.0," ++
    "1.0,1.0,1.0,bw.0,1.0,1.0,1.0,1.0,3.0,1.0,1.0,1.0,2.1,14im.0,61.0,t.0,1.0,1.0,1.0,1.0,1.0,1.0,1.0" ++
    ",3.0,h.0,1.0,1.0,4q.0,1f.0,v.0,2.0,2.0"),
  ("Pi",
    "4r.0,67g.0,2.1,2.0,p.0,2q0.0,1.0,4.0,2.0,f.0,3.0"),
  ("Pf",
    "57.0,671.0,3.0,s.0,2q0.0,1.0,4.0,2.0,f.0,3.0"),
  ("Po",
    "x.2,1.2,2.0,1.0,1.1,a.1,3.1,r.0,1w.0,5.0,e.1,7.0,ji.0,8.0,cy.5,15.0,1i.0,2.0,2.0,18.1,k.1,1.1,d." ++
    "0,1.2,22.3,2u.0,17.d,6h.2,1i.e,v.0,79.1,a.0,3w.0,3c.0,3d.0,au.0,c.0,a7.0,2i.0,a.1,4o.e,1.0,34.0," ++
    "22.4,4.1,33.5,4r.0,h0.8,lh.0,3g.2,1z.1,4d.2,1.2,11.5,1.3,8p.1,60.1,3k.6,1.5,4g.1,a.6,s.2,3g.3,1n" ++
    ".4,1q.1,1s.7,b.0,n6.1,8.7,8.8,2.3,2.2,3.a,1.0,1.9,2hm.3,1.1,34.0,3z.1,4.2,2.0,2.8,1.1,1.0,2.1,a." ++
    "4,1.9,2.3,1.0,1.c,2.2,bw.2,1l.0,59.0,mwy.1,7h.2,2r.0,a.0,37.5,ak.3,2e.1,14.2,1.0,1d.1,1b.0,2p.c," ++
    "g.1,3g.3,3i.1,g.1,6x.0,g84.6,2.0,m.0,k.1,2.3,3.2,1.3,7.2,6.0,1.1,45.2,1.2,2.0,1.0,1.1,a.1,3.1,r." ++
    "0,10.0,2.1,be.2,ik.0,1c.0,bi.0,kn.0,5j.0,v.0,7k.8,12.0,34.6,1u.6,2h.3,mr.0,3o.4,18.3,59.6,31.1,1" ++
    ".3,3i.3,1c.1,27.3,4.0,d.0,1.2,2g.5,2z.0,8a.1,1.1,36.4,a.1,1.0,2w.0,6y.m,2x.2,s.c,24.0,3m.2,70.0," ++
    "7c.2,4b.0,2k.7,2b.2,1.4,2l.9,5z.0,2n.4,16.1,hx.1,22.c,4v.0,vk.4,29o.1,bjv.1,3p.0,1t.4,8.0,fc.2,8" ++
    "7.3,93.0,f5o.0,5wn.4,29f.0,ny.1"),
  ("Sm",
    "17.0,g.2,1p.0,1.0,19.0,4.0,11.0,v.0,la.0,en.2,56j.0,d.0,13.2,d.2,3v.0,13.4,6.0,1w.4,5.1,4.0,2.0," ++
    "2.0,7.0,v.1,2.0,1.0,v.7f,w.1,2i.0,u.o,14.5,d1.0,9.0,1i.7,33.0,9c.4,2.u,a.f,74.3m,m.1q,4.v,2.75,1" ++
    "c.k,2.5,1524.0,mw.0,1.2,4k.0,g.2,1p.0,1.0,3n.0,6.3,2ox.1,1274.0,1jk.0,p.0,v.0,p.0,v.0,p.0,v.0,p." ++
    "0,v.0,p.0,4ks.1,1y6.8"),
  ("Sc",
    "10.0,3h.3,yx.0,3f.0,du.1,du.1,7.0,6t.0,7b.0,g5.0,1wb.0,1qc.x,qra.0,gxv.0,30.0,4a.0,63.1,3.1,6ba." ++
    "3,12ji.0,1ww.0"),
  ("Sk",
    "2m.0,1.0,1z.0,6.0,4.0,3.0,eh.3,c.d,5.6,1.0,1.g,39.0,e.1,zm.0,4l0.0,1.2,b.2,d.2,d.2,d.1,3a4.1,ndv" ++
    ".m,9.1,2v.1,r4.0,e.1,fuu.g,or.0,1.0,4i.0,1c7r.4"),
  ("So",
    "4m.0,2.0,4.0,1.0,r5.0,7e.1,3j.1,5q.0,a.0,j.1,6v.0,eb.0,ad.0,3m.5,1.0,3o.0,5r.0,15.0,av.2,f.0,1.2" ++
    ",2.5,k.0,1.0,1.0,3p.7,1.5,1.1,5.3,5h.1,kw.9,k3.0,k2.0,4d.x,9t.9,9.8,137.1,1.3,1.1,a.0,1.1,6.5,1." ++
    "0,1.0,1.0,4.0,b.1,e.0,1.1,1.0,1m.1,9.4,2.3,1.1,1.1,1.6,1.u,2.1,1.0,1.u,7g.7,4.j,2.6,2.28,1.t,p.1" ++
    "3,6.1z,m.a,29.25,m.52,1.8,1.1h,8.32,1.6v,18.17,1s.73,e8.1b,l.1,6.12,2.3t,6d.5,9x.1,1a.p,1.2g,c.5" ++
    "x,q.f,4.0,d.1,c.0,l.1,6.1,9c.1,4.9,w.11,9.0,g.u,b.t,8.0,f.v,a.12,f.8v,534.1r,h3k.1i,o1.3,a.1,1.0" ++
    ",fx.2,g21.f,a5.f,1s.1,1i.7,19.2,dg.0,3.0,4.1,d.1,8p.8,1l.g,2.2,1.c,3.0,1b.18,1a2.1,gf.0,so.7,1nq" ++
    ".0,1p1.7,4.g,eve.3,5.0,g2e.0,31f.6n,a.2,3.c3,6.m,f.f,2o.37,1o.6t,a.12,2.1n,5.2,m.1,7.t,4.1o,l.1t" ++
    ",3.0,56.2e,x5.e7,1j.3,1e.7,1.d,1.1,1c8.0,28s.0,3l.0,k1.17,4.2r,c.e,2.e,1.e,1.10,n.4g,1k.s,d.17,4" ++
    ".8,7.1,e.5,4a.6y,5.k8,3.g,3.c,3.61,6.b,4.0,f.b,4.1j,8.9,6.13,8.t,2.b,4.1,1q.9j,8.d,2.c,3.a,3.1k," ++
    "1.0,4.f,2.b,4.9,7.42,1.2j,a.0"),
  ("Zs",
    "w.0,3j.0,4bj.0,1vj.a,10.0,1b.0,334.0"),
  ("Zl",
    "6co.0"),
  ("Zp",
    "6cp.0"),
  ("Cc",
    "0.v,2n.w"),
  ("Cf",
    "4t.0,11u.5,m.0,5c.0,1d.0,ao.1,28.0,2zv.0,1ks.4,q.4,1d.4,1.9,17yn.0,6x.2,3b5.0,f.0,6zm.f,qxs.3,43" ++
    "z.7,h406.0,u.2n"),
  ("Cs",
    "16o0.1kv"),
  ("Co",
    "188w.4xr,jpc0.1ekd,2.1ekd")]

end Unicode

end Descent
